import EventScript.Proofs.Csv.Boundary
import EventScript.Proofs.Source.Rows

/-!
# CSV texts

Every text is a table as far as its quotation marks, commas and line endings go: only a field that
is too long makes it malformed. A table is read back from each way of writing it, and what stands
before the end of a row does not disturb what stands behind it.
-/

namespace EventScript.Source

open Csv

/-- What is read of a text is decided by its fields when they are read without a limit. -/
theorem exists_rowsOfCsv_eq (t : Text) :
    ∃ rows, readAll none t = .ok rows ∧
      rowsOfCsv t = if ∀ row ∈ rows, ∀ field ∈ row, field.length ≤ fieldLimit
        then .ok (cellRows (rows.filter (! ·.isEmpty)))
        else .error (.refused (.malformedCsv (.fieldTooLong fieldLimit))) := by
  obtain ⟨rows, whole, limited⟩ := read_limit t
  refine ⟨rows, whole, ?_⟩
  rw [rowsOfCsv, limited]
  by_cases short : ∀ row ∈ rows, ∀ field ∈ row, field.length ≤ fieldLimit
  · rw [if_pos short, if_pos short]
    rfl
  · rw [if_neg short, if_neg short]

theorem ne_nil_of_mem_cellRows {rows : List (List Text)} :
    ∀ row ∈ cellRows (rows.filter (! ·.isEmpty)), row ≠ [] := by
  intro row listed
  obtain ⟨cells, kept, rfl⟩ := List.mem_map.mp listed
  simpa using (List.mem_filter.mp kept).2

/-- The reader never meets a line ending where it waits for the rest of one. -/
theorem readAll_ne_breakInField (limit : Option Nat) (t : Text) :
    readAll limit t ≠ .error .breakInField := by
  obtain ⟨rows, whole, limited⟩ := read_limit t
  intro failed
  cases limit with
  | none => cases whole.symm.trans failed
  | some most =>
    have told := limited most
    simp only [Csv.read, failed] at told
    split at told <;> cases told

/-- A text is malformed exactly if one of the fields that are read of it without a limit is too
long. Otherwise its rows are those that are read without a limit, apart from the empty ones. -/
theorem rowsOfCsv_verdict (t : Text) :
    ∃ rows, readAll none t = .ok rows ∧
      ((∃ failure, rowsOfCsv t = .error failure) ↔
        ∃ row ∈ rows, ∃ field ∈ row, fieldLimit < field.length) ∧
      (∀ failure, rowsOfCsv t = .error failure →
        failure = .refused (.malformedCsv (.fieldTooLong fieldLimit))) ∧
      (∀ given, rowsOfCsv t = .ok given →
        given = cellRows (rows.filter (! ·.isEmpty)) ∧ ∀ row ∈ given, row ≠ []) ∧
      ∀ limit, readAll limit t ≠ .error .breakInField := by
  obtain ⟨rows, whole, made⟩ := exists_rowsOfCsv_eq t
  refine ⟨rows, whole, ?_, ?_, ?_, fun limit => readAll_ne_breakInField limit t⟩
  · by_cases short : ∀ row ∈ rows, ∀ field ∈ row, field.length ≤ fieldLimit
    · rw [made, if_pos short]
      constructor
      · exact nofun
      · rintro ⟨row, listed, field, inside, long⟩
        exact absurd (short row listed field inside) (Nat.not_le.mpr long)
    · rw [made, if_neg short]
      simp only [not_forall, Nat.not_le, exists_prop] at short
      exact ⟨fun _ => short, fun _ => ⟨_, rfl⟩⟩
  · intro failure failed
    rw [made] at failed
    split at failed
    · cases failed
    · cases failed
      rfl
  · intro given read
    rw [made] at read
    split at read
    · cases read
      exact ⟨rfl, ne_nil_of_mem_cellRows⟩
    · cases read

theorem ne_nil_of_isValid {table : WrittenTable} (valid : table.isValid = true) :
    ∀ cells ∈ table.rows, cells ≠ [] := by
  intro cells listed
  obtain ⟨row, written, rfl⟩ := List.mem_map.mp listed
  have rowValid := WrittenTable.isValid_iff.mp valid row written
  simp only [WrittenRow.isValid, Bool.and_eq_true, Bool.not_eq_true',
    List.isEmpty_eq_false_iff] at rowValid
  exact mt List.map_eq_nil_iff.mp rowValid.1.1

/-- Empty rows cannot be written, and all other tables can. From each way of writing a table its
rows are read back, except that a cell which is too long makes the text malformed. -/
theorem rowsOfCsv_written_eq (rows : List (List Text)) :
    ((∃ table : WrittenTable, table.isValid = true ∧ table.rows = rows) ↔
        ∀ cells ∈ rows, cells ≠ []) ∧
      ∀ table : WrittenTable, table.isValid = true → table.rows = rows →
        rowsOfCsv table.written = if ∀ cells ∈ rows, ∀ t ∈ cells, t.length ≤ fieldLimit
          then .ok (cellRows rows)
          else .error (.refused (.malformedCsv (.fieldTooLong fieldLimit))) := by
  constructor
  · constructor
    · rintro ⟨table, valid, rfl⟩
      exact ne_nil_of_isValid valid
    · intro nonempty
      exact ⟨.quotedThroughout rows, WrittenTable.isValid_quotedThroughout nonempty,
        WrittenTable.rows_quotedThroughout rows⟩
  · rintro table valid rfl
    obtain ⟨all, whole, made⟩ := exists_rowsOfCsv_eq table.written
    have unlimited : Csv.read none table.written = .ok table.rows :=
      read_eq_rows valid fun _ _ _ _ _ => nofun
    rw [Csv.read, whole] at unlimited
    have kept : all.filter (! ·.isEmpty) = table.rows := Except.ok.inj unlimited
    simp only [made, ← kept, forall_field_filter_iff]

/-- The carriage return after a row and the line feed of an empty line are one line ending, and the
comma, the line ending and the marks between quotation marks stay. -/
theorem rowsOfCsv_written_eq_mixedEndings :
    rowsOfCsv "\ra\"b,\"x,\r\n\"\"\",\r\n\"\"\r\n,z" =
      .ok (cellRows [["a\"b", "x,\r\n\"", ""], [""], ["", "z"]]) := by
  let lines : List WrittenLine := [.empty .carriage,
    .row [⟨"a\"b", false⟩, ⟨"x,\r\n\"", true⟩, ⟨"", false⟩] .carriage, .empty .feed,
    .row [⟨"", true⟩] .both]
  let table : WrittenTable := ⟨lines, some [⟨"", false⟩, ⟨"z", false⟩]⟩
  have valid : table.isValid = true := by decide
  have short : ∀ cells ∈ table.rows, ∀ t ∈ cells, t.length ≤ fieldLimit := by decide
  exact ((rowsOfCsv_written_eq table.rows).2 table valid rfl).trans (if_pos short)

/-- A text cut apart behind a line ending outside quotation marks is read part by part, and is
malformed exactly if one of the parts is. -/
theorem rowsOfCsv_append {front : Text} (ends : EndsRow front) (back : Text) :
    rowsOfCsv (front ++ back) = (do return (← rowsOfCsv front) ++ (← rowsOfCsv back)) ∧
      ((∃ failure, rowsOfCsv (front ++ back) = .error failure) ↔
        (∃ failure, rowsOfCsv front = .error failure) ∨
          ∃ failure, rowsOfCsv back = .error failure) := by
  have joined : rowsOfCsv (front ++ back) =
      (do return (← rowsOfCsv front) ++ (← rowsOfCsv back)) := by
    unfold rowsOfCsv
    rw [read_append ends]
    cases Csv.read (some fieldLimit) front with
    | error fault => rfl
    | ok before =>
      cases Csv.read (some fieldLimit) back with
      | error fault => rfl
      | ok others => exact congrArg Except.ok List.map_append
  refine ⟨joined, ?_⟩
  rw [joined]
  cases rowsOfCsv front with
  | error failure => simp [bind, Except.bind]
  | ok before => cases rowsOfCsv back <;> simp [bind, Except.bind, pure, Except.pure]

/-- The carriage return that ends the first part and the line feed before the second are one line
ending, and the mark that nothing closes stays in the second part. -/
theorem rowsOfCsv_append_cutEnding :
    EndsRow "x,\"\r\n\"y\r" ∧
      rowsOfCsv "x,\"\r\n\"y\r\n,\"z\r" = .ok (cellRows [["x", "\r\ny"], ["", "z\r"]]) := by
  have ends : EndsRow "x,\"\r\n\"y\r" := ⟨⟨_, rfl, by decide⟩, _, rfl, by decide⟩
  refine ⟨ends, (rowsOfCsv_append ends "\n,\"z\r").1.trans ?_⟩
  rfl

end EventScript.Source
