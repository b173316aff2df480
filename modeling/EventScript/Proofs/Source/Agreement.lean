import EventScript.Proofs.Compile.Stages
import EventScript.Proofs.Json.Reading
import EventScript.Proofs.Source.Rows
import EventScript.Proofs.Source.Shape

/-!
# Formats agree

A table has the same rows whether it is written as CSV, as a list of lists, or as a dictionary of
lists, so that the same comes of it.
-/

namespace EventScript

open Json

/-- What comes of a source text: its commands and its script or a failure, and what is logged. -/
def Job.compileText (levels : Option Nat) (format : SourceFormat) (t : Text)
    (config : Script.Config) : Job (List Command × Bytes) := do
  let rows ← ofExcept (Source.rowsOfText levels format t)
  makeScript rows config

namespace Source

variable {levels : Option Nat} {rows : List (List Text)} {keys : List Text}

theorem map_joinHalves_eq {cells : List Text} (noSurrogate : ∀ t ∈ cells, t.hasSurrogate = false) :
    cells.map (fun t => Value.text t.joinHalves) = cells.map Value.text := by
  apply List.map_congr_left
  intro t membership
  rw [joinHalves_eq_self (noSurrogate t membership)]

theorem isRead_writeRow {cells : List Text} (noSurrogate : ∀ t ∈ cells, t.hasSurrogate = false) :
    IsRead levels 1 (writeRow cells) (.list (cells.map Value.text)) := by
  rw [← map_joinHalves_eq noSurrogate]
  exact isRead_list writeText _ fun t _ => isRead_writeText t

theorem rowsOfJson_writeRows (room : allows levels 2 = true)
    (noSurrogate : ∀ cells ∈ rows, ∀ t ∈ cells, t.hasSurrogate = false) :
    rowsOfJson levels (writeRows rows) = .ok (cellRows rows) := by
  have isRead : IsRead levels 2 (writeRows rows)
      (.list (rows.map fun cells => .list (cells.map Value.text))) :=
    isRead_list writeRow _ fun cells listed => isRead_writeRow (noSurrogate cells listed)
  have shaped := rowsOfValue_list (cellRows rows)
  rw [cellRows, List.map_map] at shaped
  unfold rowsOfJson
  rw [read_eq_ok rfl (isRead [] room)]
  exact shaped

/-- What is read of rows under keys, whether or not all keys are different. -/
theorem rowsOfJson_writeMembers {members : List (Text × List Text)}
    (room : allows levels 2 = true)
    (noSurrogate : ∀ member ∈ members, ∀ t ∈ member.2, t.hasSurrogate = false) :
    rowsOfJson levels (writeMembers members) = rowsOfValue (.ofMembers
      (members.map fun (key, cells) => (key.joinHalves, .list (cells.map Value.text)))) := by
  have isRead : IsRead levels 2 (writeMembers members) (.ofMembers
      (members.map fun (key, cells) => (key.joinHalves, .list (cells.map Value.text)))) :=
    isRead_dict writeRow (fun cells => .list (cells.map Value.text))
      fun member listed => isRead_writeRow (noSurrogate member listed)
  unfold rowsOfJson
  rw [read_eq_ok rfl (isRead [] room)]

/-- Keys that are written differently are read as different keys, so that every row is kept. -/
theorem rowsOfJson_writeMembers_of_nodup {members : List (Text × List Text)}
    (room : allows levels 2 = true)
    (noSurrogate : ∀ member ∈ members, ∀ t ∈ member.2, t.hasSurrogate = false)
    (distinct : (members.map fun member => writeText member.1).Nodup) :
    rowsOfJson levels (writeMembers members) = .ok (cellRows (members.map Prod.snd)) := by
  let entries : List (Text × Row) :=
    members.map fun member => (member.1.joinHalves, member.2.map Value.text)
  have entries_eq : members.map (fun (key, cells) => (key.joinHalves, Value.list (cells.map .text)))
      = entries.map fun entry => (entry.1, .list entry.2) := by
    rw [List.map_map]
    rfl
  have separate :
      ((entries.map fun entry => (entry.1, Value.list entry.2)).map Prod.fst).Nodup := by
    apply List.Nodup.of_map writeText
    simp only [entries, List.map_map, Function.comp_def, writeText_joinHalves]
    exact distinct
  rw [rowsOfJson_writeMembers room noSurrogate, entries_eq, Value.ofMembers_of_nodup separate,
    rowsOfValue_dict]
  simp only [entries, cellRows, List.map_map, Function.comp_def]

theorem rowsOfCsv_quotedThroughout (nonempty : ∀ cells ∈ rows, cells ≠ [])
    (fits : ∀ cells ∈ rows, ∀ t ∈ cells, t.length ≤ Csv.fieldLimit) :
    rowsOfCsv (Csv.WrittenTable.quotedThroughout rows).written = .ok (cellRows rows) := by
  have read := rowsOfCsv_written (Csv.WrittenTable.isValid_quotedThroughout nonempty)
    (by rwa [Csv.WrittenTable.rows_quotedThroughout])
  rwa [Csv.WrittenTable.rows_quotedThroughout] at read

end Source

namespace Job

theorem quiet_compileText (levels : Option Nat) (format : SourceFormat) (t : Text)
    (config : Script.Config) (tree : FileTree) :
    Quiet (compileText levels format t config) tree
      ((Source.rowsOfText levels format t).bind fun rows => compileRows rows config) := by
  apply (quiet_ofExcept (Source.rowsOfText levels format t)).bind_result
  intro rows
  exact quiet_makeScript tree rows config

theorem compileText_of_rowsOfText {levels : Option Nat} {format other : SourceFormat} {t u : Text}
    (same : Source.rowsOfText levels format t = Source.rowsOfText levels other u)
    (config : Script.Config) :
    compileText levels format t config = compileText levels other u config := by
  unfold compileText
  rw [same]

end Job

variable {levels : Option Nat} {rows : List (List Text)} {keys : List Text}

/-- Whichever way a table is written, the same commands, bytes and warnings come of it, or the same
failure. The reader needs no more than the two levels of every table. -/
theorem compileText_agree (room : allows levels 2 = true) (nonempty : ∀ cells ∈ rows, cells ≠ [])
    (noSurrogate : ∀ cells ∈ rows, ∀ t ∈ cells, t.hasSurrogate = false)
    (fits : ∀ cells ∈ rows, ∀ t ∈ cells, t.length ≤ Csv.fieldLimit)
    (length_eq : keys.length = rows.length) (distinct : (keys.map writeText).Nodup)
    (config : Script.Config) :
    let csv := Job.compileText levels .csv (Csv.WrittenTable.quotedThroughout rows).written config
    Job.compileText levels .json (writeRows rows) config = csv ∧
      Job.compileText levels .json (writeMembers (keys.zip rows)) config = csv := by
  have csv : Source.rowsOfText levels .csv (Csv.WrittenTable.quotedThroughout rows).written = _ :=
    Source.rowsOfCsv_quotedThroughout nonempty fits
  have list : Source.rowsOfText levels .json (writeRows rows) = _ :=
    Source.rowsOfJson_writeRows room noSurrogate
  have keys_eq : (keys.zip rows).map Prod.fst = keys := List.map_fst_zip (Nat.le_of_eq length_eq)
  have rows_eq : (keys.zip rows).map Prod.snd = rows :=
    List.map_snd_zip (Nat.le_of_eq length_eq.symm)
  have dict : Source.rowsOfText levels .json (writeMembers (keys.zip rows)) =
      .ok (cellRows rows) := by
    have separate : ((keys.zip rows).map fun member => writeText member.1).Nodup := by
      rw [← keys_eq, List.map_map] at distinct
      exact distinct
    have read := Source.rowsOfJson_writeMembers_of_nodup room
      (fun member listed => noSurrogate member.2 (List.of_mem_zip listed).2) separate
    rwa [rows_eq] at read
  constructor
  · exact Job.compileText_of_rowsOfText (list.trans csv.symm) config
  · exact Job.compileText_of_rowsOfText (dict.trans csv.symm) config

/-- Keys without surrogates are written differently if they are different. -/
theorem nodup_map_writeText (noSurrogate : ∀ key ∈ keys, key.hasSurrogate = false)
    (different : keys.Nodup) : (keys.map writeText).Nodup := by
  apply different.map_on
  intro key listed other otherListed same
  have joined := writeText_inj.mp same
  rwa [joinHalves_eq_self (noSurrogate key listed),
    joinHalves_eq_self (noSurrogate other otherListed)] at joined

/-- Two messages. -/
def sampleRows : List (List Text) :=
  [["0x1", "hud", "", "", "shout", "a,\r\n\"b\""], ["0x2", "hud", "", "", "whisper", "😀"]]

theorem sampleRows_cells : (∀ cells ∈ sampleRows, cells ≠ []) ∧
    (∀ cells ∈ sampleRows, ∀ t ∈ cells, t.hasSurrogate = false) ∧
    ∀ cells ∈ sampleRows, ∀ t ∈ cells, t.length ≤ Csv.fieldLimit := by
  exact ⟨by decide, by decide, by decide +kernel⟩

theorem compileText_agree_sampleRows :
    let levels := some usualLevels
    let config : Script.Config := ⟨"0.1.0", Script.magic⟩
    let members := [Text.ofString "first", Text.ofString "😀"].zip sampleRows
    let csv := Job.compileText levels .csv (Csv.WrittenTable.quotedThroughout sampleRows).written
      config
    Job.compileText levels .json (writeRows sampleRows) config = csv ∧
      Job.compileText levels .json (writeMembers members) config = csv := by
  obtain ⟨nonempty, noSurrogate, fits⟩ := sampleRows_cells
  have distinct : ([Text.ofString "first", Text.ofString "😀"].map writeText).Nodup :=
    nodup_map_writeText (by decide) (by decide)
  exact compileText_agree (by decide) nonempty noSurrogate fits rfl distinct _

/-- A surrogate pair and its code point are different keys for one and the same written key, under
which a row is lost. -/
theorem not_forall_compileText_agree :
    ¬∀ (levels : Option Nat) (rows : List (List Text)) (keys : List Text) (config : Script.Config),
      allows levels 2 = true → (∀ cells ∈ rows, cells ≠ []) →
      (∀ cells ∈ rows, ∀ t ∈ cells, t.hasSurrogate = false) →
      (∀ cells ∈ rows, ∀ t ∈ cells, t.length ≤ Csv.fieldLimit) →
      keys.length = rows.length → keys.Nodup →
      Job.compileText levels .json (writeMembers (keys.zip rows)) config =
        Job.compileText levels .csv (Csv.WrittenTable.quotedThroughout rows).written config := by
  intro every
  obtain ⟨nonempty, noSurrogate, fits⟩ := sampleRows_cells
  let keys : List Text := [[.ofNat 0xD83D, .ofNat 0xDE00], [.ofNat 0x1F600]]
  let levels := some usualLevels
  let quoted := (Csv.WrittenTable.quotedThroughout sampleRows).written
  have room : allows levels 2 = true := by decide
  have same := every levels sampleRows keys ⟨"0.1.0", Script.magic⟩ room nonempty noSurrogate fits
    rfl (by decide)
  have csv : Source.rowsOfText levels .csv quoted = _ :=
    Source.rowsOfCsv_quotedThroughout nonempty fits
  have dict : Source.rowsOfText levels .json (writeMembers (keys.zip sampleRows)) = _ :=
    Source.rowsOfJson_writeMembers room
      fun member listed => noSurrogate member.2 (List.of_mem_zip listed).2
  have first := (Job.quiet_compileText levels .json (writeMembers (keys.zip sampleRows))
    ⟨"0.1.0", Script.magic⟩ ⟨[], []⟩).result_eq
  have second := (Job.quiet_compileText levels .csv quoted ⟨"0.1.0", Script.magic⟩
    ⟨[], []⟩).result_eq
  rw [same, second, csv, dict] at first
  have counts := congrArg (fun made => made.toOption.map fun made => made.1.length) first
  revert counts
  decide

end EventScript
