import EventScript.Proofs.Csv.Scan

/-!
# Where fields come from

The reader only ever keeps code points that it was given: whatever the quotation marks and line
endings do, a field holds nothing that is not in the text.
-/

namespace EventScript.Csv

/-- All code points that the reader has kept have the property. -/
structure Reader.Holds (p : CodePoint → Prop) (r : Reader) : Prop where
  field : ∀ c ∈ r.field, p c
  row : ∀ field ∈ r.row, ∀ c ∈ field, p c
  rows : ∀ row ∈ r.rows, ∀ field ∈ row, ∀ c ∈ field, p c

namespace Reader

variable {p : CodePoint → Prop} {limit : Option Nat} {r s : Reader} {c : CodePoint}

theorem holds_start : start.Holds p :=
  ⟨nofun, nofun, nofun⟩

theorem Holds.endField (holds : r.Holds p) (mode : Mode) : (r.endField mode).Holds p := by
  refine ⟨nofun, ?_, holds.rows⟩
  intro field inside
  rcases Array.mem_push.mp inside with before | rfl
  · exact holds.row field before
  · exact fun c kept => holds.field c (Array.mem_toList_iff.mp kept)

theorem Holds.endRow (holds : r.Holds p) : r.endRow.Holds p := by
  refine ⟨holds.field, nofun, ?_⟩
  intro row inside
  rcases Array.mem_push.mp inside with before | rfl
  · exact holds.rows row before
  · exact fun field kept => holds.row field (Array.mem_toList_iff.mp kept)

theorem Holds.add {mode : Mode} (holds : r.Holds p) (given : p c)
    (added : r.add limit c mode = .ok s) : s.Holds p := by
  have longer : ({ r with mode, field := r.field.push c } : Reader).Holds p := by
    refine ⟨?_, holds.row, holds.rows⟩
    intro d inside
    rcases Array.mem_push.mp inside with before | rfl
    · exact holds.field d before
    · exact given
  unfold Reader.add at added
  split at added
  · split at added
    · cases added
    · cases added
      exact longer
  · cases added
    exact longer

theorem Holds.carryOut {move : Move} (holds : r.Holds p) (given : p c)
    (done : r.carryOut limit c move = .ok s) : s.Holds p := by
  cases move with
  | turn mode =>
    cases done
    exact ⟨holds.field, holds.row, holds.rows⟩
  | keep mode => exact holds.add given done
  | close mode =>
    cases done
    exact holds.endField mode

theorem Holds.step (holds : r.Holds p) (given : p c) (stepped : r.step limit c = .ok s) :
    s.Holds p := by
  rw [step_eq] at stepped
  split at stepped
  · exact holds.carryOut given stepped
  · cases stepped

theorem Holds.readChars {line : Text} (holds : r.Holds p) (given : ∀ c ∈ line, p c)
    (read : r.readChars limit line = .ok s) : s.Holds p := by
  induction line generalizing r with
  | nil =>
    cases read
    exact holds
  | cons c rest ih =>
    rw [List.forall_mem_cons] at given
    rw [Reader.readChars] at read
    split at read
    · cases read
    · next stepped => exact ih (holds.step given.1 stepped) given.2 read

theorem Holds.endLine (holds : r.Holds p) : r.endLine.Holds p := by
  unfold Reader.endLine
  split
  · exact holds.endRow
  · exact holds.endRow
  · exact (holds.endField .rowEnd).endRow
  · exact (holds.endField .rowEnd).endRow
  · exact (holds.endField .rowEnd).endRow
  · exact holds

theorem Holds.readLines {lines : List Text} (holds : r.Holds p)
    (given : ∀ line ∈ lines, ∀ c ∈ line, p c) (read : r.readLines limit lines = .ok s) :
    s.Holds p := by
  induction lines generalizing r with
  | nil =>
    cases read
    exact holds
  | cons line rest ih =>
    rw [List.forall_mem_cons] at given
    rw [Reader.readLines] at read
    split at read
    · cases read
    · next ended => exact ih (holds.readChars given.1 ended).endLine given.2 read

theorem Holds.finish (holds : r.Holds p) : ∀ row ∈ r.finish, ∀ field ∈ row, ∀ c ∈ field, p c := by
  intro row given
  unfold Reader.finish at given
  split at given
  · exact (holds.endField .rowEnd).endRow.rows row (Array.mem_toList_iff.mp given)
  · exact holds.rows row (Array.mem_toList_iff.mp given)

end Reader

theorem mem_of_read {limit : Option Nat} {t : Text} {rows : List (List Text)}
    (read : Csv.read limit t = .ok rows) : ∀ row ∈ rows, ∀ field ∈ row, ∀ c ∈ field, c ∈ t := by
  unfold Csv.read readAll at read
  have lines : ∀ line ∈ t.lines, ∀ c ∈ line, c ∈ t := by
    intro line listed c inside
    rw [← Text.flatten_lines t]
    exact List.mem_flatten_of_mem listed inside
  cases ended : Reader.start.readLines limit t.lines with
  | error fault =>
    rw [ended] at read
    cases read
  | ok r =>
    rw [ended] at read
    cases read
    intro row given
    exact (Reader.holds_start.readLines lines ended).finish row (List.mem_filter.mp given).1

end EventScript.Csv
