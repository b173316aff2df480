import EventScript.Proofs.Csv.Written
import EventScript.Source.Rows

/-!
# Rows of a written table

However a table is written as CSV, its texts are the cells of the rows that are read.
-/

namespace EventScript

/-- Texts of a table, as the cells of its rows. -/
def cellRows (rows : List (List Text)) : List Row :=
  rows.map fun cells => cells.map Value.text

namespace Csv.WrittenTable

theorem isValid_quotedThroughout {rows : List (List Text)}
    (nonempty : ∀ cells ∈ rows, cells ≠ []) : (quotedThroughout rows).isValid = true := by
  rw [isValid_iff]
  intro row written
  have quoted : (quotedThroughout rows).writtenRows = rows.map fun cells =>
      cells.map fun t => ⟨t, true⟩ := by
    simp [quotedThroughout, writtenRows, WrittenLine.row?, Function.comp_def]
  rw [quoted] at written
  obtain ⟨cells, listed, rfl⟩ := List.mem_map.mp written
  have filled := nonempty cells listed
  cases cells with
  | nil => contradiction
  | cons t rest => simp [WrittenRow.isValid, WrittenCell.isValid]

end Csv.WrittenTable

namespace Source

theorem rowsOfCsv_written {table : Csv.WrittenTable} (valid : table.isValid = true)
    (fits : ∀ cells ∈ table.rows, ∀ t ∈ cells, t.length ≤ Csv.fieldLimit) :
    rowsOfCsv table.written = .ok (cellRows table.rows) := by
  have read : Csv.read (some Csv.fieldLimit) table.written = .ok table.rows := by
    apply Csv.read_eq_rows valid
    intro cells listed t inside most given
    cases given
    exact fits cells listed t inside
  unfold rowsOfCsv
  rw [read]
  rfl

end Source

end EventScript
