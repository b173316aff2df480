import EventScript.Proofs.Except
import EventScript.Proofs.Failure
import EventScript.Proofs.Json.Integers
import EventScript.Proofs.Source.Rows
import EventScript.Proofs.Source.Shape

/-!
# Sources that settle

The integers of a source come from literals, so that all of them can be written. A source therefore
gives rows without long integers in them, or is refused, unless it is nested too deeply to be read.
-/

namespace EventScript.Source

variable {levels : Option Nat} {v : Value} {format : SourceFormat} {t : Text}
  {container : Json.Container}

/-- Rows whose integers can all be written. -/
def AreWritable (rows : List Row) : Prop :=
  ∀ row ∈ rows, ∀ cell ∈ row, cell.HasWritableIntegers

/-! ## Values -/

/-- The part that is reported is the value itself or a part of it. -/
theorem hasWritableIntegers_of_misfit? {misfit : Misfit} (writable : v.HasWritableIntegers)
    (found : misfit? v = some misfit) : misfit.value.HasWritableIntegers := by
  cases blames_of_misfit? found with
  | top => exact writable
  | item =>
    intro n inside
    exact writable n (Value.mem_integersOfItems_iff.mpr ⟨_, List.mem_append_cons_self, inside⟩)
  | member held =>
    intro n inside
    exact writable n (Value.mem_integersOfMembers_iff.mpr ⟨_, held, inside⟩)

theorem mem_integers_of_row? {row : Row} {cell : Value} {n : Int} (taken : row? v = some row)
    (listed : cell ∈ row) (inside : n ∈ cell.integers) : n ∈ v.integers := by
  cases v with
  | list cells =>
    cases taken
    exact Value.mem_integersOfItems_iff.mpr ⟨cell, listed, inside⟩
  | null | bool | int | double | text | dict => cases taken

/-- Rows have no integers but those of the value they are taken from. -/
theorem mem_integers_of_mem_rows {row : Row} {cell : Value} {n : Int} (given : row ∈ rows v)
    (listed : cell ∈ row) (inside : n ∈ cell.integers) : n ∈ v.integers := by
  cases v with
  | list items =>
    obtain ⟨item, held, taken⟩ := List.mem_filterMap.mp given
    exact Value.mem_integersOfItems_iff.mpr ⟨item, held, mem_integers_of_row? taken listed inside⟩
  | dict members =>
    obtain ⟨member, held, taken⟩ := List.mem_filterMap.mp given
    exact Value.mem_integersOfMembers_iff.mpr
      ⟨member, held, mem_integers_of_row? taken listed inside⟩
  | null | bool | int | double | text => cases given

theorem areWritable_rows (writable : v.HasWritableIntegers) : AreWritable (rows v) :=
  fun _ given _ listed n inside => writable n (mem_integers_of_mem_rows given listed inside)

theorem settles_rowsOfValue (writable : v.HasWritableIntegers) :
    Settles [.parsing] AreWritable (rowsOfValue v) := by
  unfold rowsOfValue
  split
  · next misfit found =>
    have shown := Value.isDisplayable_of_integers _ (hasWritableIntegers_of_misfit? writable found)
    rw [refuseShape, if_pos shown]
    exact .refused List.mem_cons_self
  · exact .gives (areWritable_rows writable)

/-! ## Texts -/

theorem exists_read_of_rowsOfCsv {rows : List Row} (read : rowsOfCsv t = .ok rows) :
    ∃ fields, Csv.read (some Csv.fieldLimit) t = .ok fields ∧ rows = cellRows fields := by
  unfold rowsOfCsv at read
  split at read
  · cases read
  · next fields found =>
    cases read
    exact ⟨fields, found, rfl⟩

theorem integers_eq_nil_of_mem_cellRows {fields : List (List Text)} {row : Row} {cell : Value}
    (given : row ∈ cellRows fields) (listed : cell ∈ row) : cell.integers = [] := by
  obtain ⟨texts, -, rfl⟩ := List.mem_map.mp given
  obtain ⟨field, -, rfl⟩ := List.mem_map.mp listed
  rfl

theorem settles_rowsOfCsv (t : Text) : Settles [.parsing] AreWritable (rowsOfCsv t) := by
  unfold rowsOfCsv
  split
  · exact .refused List.mem_cons_self
  · apply Settles.gives
    intro row given cell listed n inside
    rw [integers_eq_nil_of_mem_cellRows given listed] at inside
    cases inside

theorem settles_rowsOfValue_of_read (read : Json.read levels t = .ok v) :
    Settles [.parsing] AreWritable (rowsOfValue v) :=
  settles_rowsOfValue fun n inside => (Json.isLoaded_of_read read n inside).isWritable

theorem rowsOfJson_eq_nesting_iff : rowsOfJson levels t = .error (.brokeDown (.nesting container)) ↔
    Json.read levels t = .error (.nested container) := by
  unfold rowsOfJson
  cases read : Json.read levels t with
  | error stop => cases stop <;> simp
  | ok v =>
    constructor
    · exact fun failed => absurd failed ((settles_rowsOfValue_of_read read).ne_brokeDown _)
    · exact nofun

/-- A text that is nested no deeper than the reader can follow gives rows or is refused. -/
theorem settles_rowsOfJson
    (flat : ∀ container, rowsOfJson levels t ≠ .error (.brokeDown (.nesting container))) :
    Settles [.parsing] AreWritable (rowsOfJson levels t) := by
  cases read : Json.read levels t with
  | error stop =>
    cases stop with
    | refused refusal =>
      rw [rowsOfJson, read]
      exact .refused List.mem_cons_self
    | nested container => exact absurd (rowsOfJson_eq_nesting_iff.mpr read) (flat container)
  | ok v =>
    rw [rowsOfJson, read]
    exact settles_rowsOfValue_of_read read

/-- However deep an integer lies in the rows of a JSON text, it was loaded from a literal. -/
theorem isLoaded_of_rowsOfJson {rows : List Row} (read : rowsOfJson levels t = .ok rows) :
    ∀ row ∈ rows, ∀ cell ∈ row, ∀ n ∈ cell.integers, Json.IsLoaded n := by
  intro row given cell listed n inside
  unfold rowsOfJson at read
  split at read
  · cases read
  · cases read
  · next v done =>
    unfold rowsOfValue at read
    split at read
    · cases read
    · cases read
      exact Json.isLoaded_of_read done n (mem_integers_of_mem_rows given listed inside)

theorem settles_rowsOfText
    (flat : ∀ container, rowsOfText levels format t ≠ .error (.brokeDown (.nesting container))) :
    Settles [.parsing] AreWritable (rowsOfText levels format t) := by
  cases format with
  | csv => exact settles_rowsOfCsv t
  | json => exact settles_rowsOfJson flat

/-! ## Files -/

variable {tree : FileTree} {path : Path}

theorem settles_ofPath (path : Path) :
    Settles [.reading] (fun _ => True) (SourceFormat.ofPath path) := by
  unfold SourceFormat.ofPath
  split
  · exact .gives trivial
  · exact .refused List.mem_cons_self

theorem settles_contentOf (speakable : FileTree.unspeakable? path.toText = none) :
    Settles [.reading] (fun _ => True) (contentOf tree path) := by
  unfold contentOf
  rw [speakable]
  simp only
  split
  · exact .refused List.mem_cons_self
  · exact .gives trivial

theorem settles_textOfFile (path : Path) (format : SourceFormat) (bytes : Bytes) :
    Settles [.reading] (fun _ => True)
      ((textOfFile format bytes).mapError fun fault => .refused (.notUtf8 path fault)) :=
  .of_mapError (fun fault => List.mem_singleton.mpr (by rfl)) _

/-- The path leads to a JSON file that is nested too deeply for the reader. -/
structure Nests (levels : Option Nat) (tree : FileTree) (path : Path)
    (container : Json.Container) : Prop where
  format : SourceFormat.ofPath path = .ok .json
  content : ∃ bytes t, contentOf tree path = .ok bytes ∧ textOfFile .json bytes = .ok t ∧
    Json.read levels t = .error (.nested container)

theorem Nests.rowsOfFile_eq (nests : Nests levels tree path container) :
    rowsOfFile levels tree path = .error (.brokeDown (.nesting container)) := by
  obtain ⟨format, bytes, t, content, decoded, read⟩ := nests
  unfold rowsOfFile
  rw [format, content]
  simp only [bind, Except.bind, decoded, Except.mapError, rowsOfText,
    rowsOfJson_eq_nesting_iff.mpr read]

/-- Only JSON is nested. -/
theorem not_nests_of_csv (csv : SourceFormat.ofPath path = .ok .csv) :
    ¬Nests levels tree path container := by
  intro nests
  cases csv.symm.trans nests.format

/-- A path that can be handed to the system is read without a breakdown, whatever it leads to,
unless that is nested too deeply. -/
theorem settles_rowsOfFile (speakable : FileTree.unspeakable? path.toText = none)
    (flat : ∀ container, ¬Nests levels tree path container) :
    Settles [.reading, .parsing] (fun read => AreWritable read.2)
      (rowsOfFile levels tree path) := by
  have early : [Stage.reading] ⊆ [.reading, .parsing] := List.subset_append_left [_] [_]
  apply ((settles_ofPath path).and_eq.mono early fun _ => id).bind
  rintro format ⟨-, known⟩
  apply ((settles_contentOf speakable).and_eq.mono early fun _ => id).bind
  rintro bytes ⟨-, content⟩
  apply (settles_textOfFile path format bytes).and_eq.bind_append
  rintro t ⟨-, decoded⟩
  have settles : Settles [.parsing] AreWritable (rowsOfText levels format t) := by
    apply settles_rowsOfText
    intro container broke
    cases format with
    | csv => exact (settles_rowsOfCsv t).ne_brokeDown _ broke
    | json =>
      exact flat container ⟨known, bytes, t, content, Except.eq_ok_of_mapError decoded,
        rowsOfJson_eq_nesting_iff.mp broke⟩
  apply settles.bind
  intro rows writable
  exact .gives writable

end EventScript.Source
