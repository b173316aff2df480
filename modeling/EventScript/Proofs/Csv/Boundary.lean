import EventScript.Proofs.Csv.Limit

/-!
# Where rows can be cut apart

At a line ending outside quotation marks nothing is left of the row before but the row itself. What
follows is read as if it were a text of its own, also where a carriage return and the line feed
behind it are cut apart.
-/

namespace EventScript.Csv

namespace Reader

variable {limit : Option Nat} {r s : Reader} {c : CodePoint} {before : Array (List Text)}

/-- A reader that has read other rows before its own. -/
def after (before : Array (List Text)) (r : Reader) : Reader :=
  r.withRows (before ++ r.rows)

theorem settle_after (before : Array (List Text)) (r : Reader) :
    (r.after before).settle = r.settle.after before := by
  unfold settle after withRows
  simp only
  repeat' split
  · rfl
  · simp [endRow]
  · rfl

theorem close_after (before : Array (List Text)) (r : Reader) :
    (r.after before).close = before.toList ++ r.close := by
  by_cases start : r.mode = .rowStart <;> simp [close, after, withRows, start, endField, endRow]

/-- Rows that were read before have nothing to do with what is done next. -/
theorem take_after (limit : Option Nat) (before : Array (List Text)) (r : Reader) (c : CodePoint) :
    (r.after before).take limit c = (r.take limit c).map (after before) := by
  rw [take, take, step_eq, step_eq]
  have same : (r.after before).mode = r.mode := rfl
  rw [same]
  cases Move.of? r.mode c with
  | none => rfl
  | some move =>
    simp only [after, carryOut_withRows]
    cases done : r.carryOut limit c move with
    | error fault => rfl
    | ok m =>
      have kept := (mode_rows_of_carryOut done).2
      simp only [Except.map, ← kept]
      exact congrArg Except.ok (settle_after before m)

theorem scan_after (limit : Option Nat) (before : Array (List Text)) (r : Reader) (t : Text) :
    (r.after before).scan limit t = (r.scan limit t).map (after before) := by
  induction t generalizing r with
  | nil => rfl
  | cons c t ih =>
    rw [scan_cons, scan_cons, take_after]
    cases r.take limit c with
    | error fault => rfl
    | ok m => exact ih m

/-- Where a row starts, a reader is at the start but for the rows before. -/
theorem IsSettled.eq_after (settled : r.IsSettled) (begins : r.mode = .rowStart) :
    r = start.after r.rows := by
  obtain ⟨row, field⟩ := settled.blank begins
  obtain ⟨mode, oldField, oldRow, rows⟩ := r
  simp only at begins row field
  simp [start, after, withRows, begins, row, field]

theorem mode_of_take_isBreak (ends : isBreak c = true) (taken : r.take limit c = .ok s) :
    s.mode = .rowStart ∨ s.mode = .quoted := by
  rw [take] at taken
  cases stepped : r.step limit c with
  | error fault =>
    rw [stepped] at taken
    cases taken
  | ok m =>
    rw [stepped] at taken
    cases taken
    rcases mode_of_step_isBreak ends stepped with ended | inside
    · left
      unfold settle
      rw [if_pos ended]
      split <;> rfl
    · right
      simp [settle, inside]

theorem mode_tidy_eq_quoted (r : Reader) (_ : r.mode = .rowStart ∨ r.mode = .quoted) :
    (r.mode = .quoted) = (r.tidy.mode = .quoted) := by
  obtain ⟨mode, field, row, rows⟩ := r
  cases mode <;> simp [tidy, withRows, endRow]

theorem mode_endLine_eq_quoted (r : Reader) (_ : r.mode ≠ .rowStart) :
    (r.endLine.mode = .quoted) = (r.tidy.mode = .quoted) := by
  obtain ⟨mode, field, row, rows⟩ := r
  cases mode <;> simp [endLine, tidy, withRows, endField, endRow]

end Reader

open Reader

/-- A text that ends with a line ending at which the reader is outside quotation marks. -/
structure EndsRow (t : Text) : Prop where
  isBreak_last : ∃ c ∈ t.getLast?, isBreak c = true
  outside : ∃ r, Reader.start.readLines none t.lines = .ok r ∧ r.mode ≠ .quoted

theorem EndsRow.exists_scan_eq_ok {t : Text} (ends : EndsRow t) :
    ∃ s, Reader.start.scan none t = .ok s ∧ s = start.after s.rows := by
  obtain ⟨s, scanned, settled⟩ := isSettled_start.exists_scan_eq_ok t
  have unquoted : s.mode ≠ .quoted := by
    obtain ⟨r, read, outside⟩ := ends.outside
    have same : (Reader.start.readLines none t.lines).map (fun r => r.mode = .quoted) =
        (Reader.start.scan none t).map fun s => s.mode = .quoted :=
      map_readLines_eq mode_tidy_eq_quoted mode_endLine_eq_quoted none t
    rw [read, scanned] at same
    exact fun inside => outside ((Except.ok.inj same).mpr inside)
  have begins : s.mode = .rowStart := by
    obtain ⟨c, last, breaks⟩ := ends.isBreak_last
    obtain ⟨front, rfl⟩ := List.getLast?_eq_some_iff.mp last
    rw [scan_append] at scanned
    obtain ⟨m, -, taken⟩ := Except.exists_of_bind_eq_ok scanned
    rw [scan_cons] at taken
    obtain ⟨n, taken, done⟩ := Except.exists_of_bind_eq_ok taken
    cases done
    exact (mode_of_take_isBreak breaks taken).resolve_right unquoted
  exact ⟨s, scanned, settled.eq_after begins⟩

/-- A limit on fields may refuse the text before, but does not change where it ends. -/
theorem EndsRow.scan_cases {t : Text} (ends : EndsRow t) (limit : Option Nat) :
    (∃ fault, Reader.start.scan limit t = .error fault) ∨
      ∃ rows, Reader.start.scan limit t = .ok (start.after rows) := by
  obtain ⟨s, scanned, same⟩ := ends.exists_scan_eq_ok
  cases limit with
  | none => exact .inr ⟨s.rows, scanned.trans (congrArg Except.ok same)⟩
  | some most =>
    rw [scan_limit (within_start most) scanned]
    split
    · exact .inr ⟨s.rows, congrArg Except.ok same⟩
    · exact .inl ⟨_, rfl⟩

/-- Behind a text that ends a row every text is read as if it stood alone. -/
theorem read_append {front : Text} (ends : EndsRow front) (limit : Option Nat) (back : Text) :
    read limit (front ++ back) =
      (read limit front).bind fun rows => (read limit back).map (rows ++ ·) := by
  rw [read_eq_scan, read_eq_scan, read_eq_scan, scan_append]
  rcases ends.scan_cases limit with ⟨fault, failed⟩ | ⟨rows, scanned⟩
  · rw [failed]
    rfl
  · rw [scanned]
    simp only [Except.bind, Except.map]
    rw [scan_after]
    cases Reader.start.scan limit back with
    | error fault => rfl
    | ok s =>
      have alone : (start.after rows).close = rows.toList := by
        simp [close, after, withRows, start]
      simp only [Except.map, close_after, alone]

end EventScript.Csv
