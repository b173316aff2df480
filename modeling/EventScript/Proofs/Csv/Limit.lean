import EventScript.Proofs.Csv.Scan
import EventScript.Proofs.Except

/-!
# The limit on fields

Without a limit every text is read, since a scan never waits for the rest of a line ending. A limit
changes nothing but that a text with a longer field is refused: a field that has grown too long
never gets shorter and is never dropped, so it is found among the fields read without a limit.
-/

namespace EventScript.Csv

theorem Move.of?_ne_keep_rowEnd {mode : Mode} {c : CodePoint} :
    of? mode c ≠ some (.keep .rowEnd) := by
  intro found
  unfold of? atFieldStart at found
  repeat' split at found
  all_goals cases found

theorem Move.mode_of_turn_rowEnd {mode : Mode} {c : CodePoint}
    (found : of? mode c = some (.turn .rowEnd)) : mode = .rowStart ∨ mode = .rowEnd := by
  unfold of? atFieldStart at found
  repeat' split at found
  all_goals first
    | exact .inl rfl
    | exact .inr rfl
    | cases found

theorem Move.mode_of_none {mode : Mode} {c : CodePoint} (found : of? mode c = none) :
    mode = .rowEnd := by
  cases mode with
  | rowEnd => rfl
  | rowStart | fieldStart | plain | quoted | markInQuoted => cases found

namespace Reader

variable {most : Nat} {limit : Option Nat} {r s : Reader} {c : CodePoint} {t : Text}

/-- All fields in the order in which they were begun, the last one being read still. -/
def fields (r : Reader) : List Text :=
  r.rows.toList.flatten ++ r.row.toList ++ [r.field.toList]

/-- No field is too long so far. -/
def Within (most : Nat) (r : Reader) : Prop :=
  ∀ field ∈ r.fields, field.length ≤ most

instance (most : Nat) (r : Reader) : Decidable (r.Within most) :=
  inferInstanceAs (Decidable (∀ field ∈ r.fields, field.length ≤ most))

/-- The field being read decides whether a reader goes on. -/
def confine (most : Nat) (r : Reader) : Except Fault Reader :=
  if r.field.size ≤ most then .ok r else .error (.fieldTooLong most)

theorem within_start (most : Nat) : start.Within most := by
  simp [Within, fields, start]

@[simp] theorem field_settle (r : Reader) : r.settle.field = r.field := by
  unfold settle
  repeat' split
  all_goals rfl

@[simp] theorem fields_settle (r : Reader) : r.settle.fields = r.fields := by
  unfold settle
  repeat' split
  · rfl
  · simp [fields, endRow]
  · rfl

theorem mode_settle_ne (r : Reader) : r.settle.mode ≠ .rowEnd := by
  unfold settle
  repeat' split
  · exact nofun
  · exact nofun
  · assumption

theorem exists_carryOut_none (r : Reader) (c : CodePoint) (move : Move) :
    ∃ s, r.carryOut none c move = .ok s := by
  cases move <;> exact ⟨_, rfl⟩

/-- Only the field being read can have become too long. -/
theorem within_carryOut_iff {move : Move} (done : r.carryOut none c move = .ok s) :
    s.Within most ↔ r.Within most ∧ s.field.size ≤ most := by
  cases move with
  | turn mode =>
    cases done
    simp [Within, fields, or_imp, forall_and]
  | keep mode =>
    cases done
    have shorter : r.field.size + 1 ≤ most → r.field.size ≤ most := Nat.le_of_succ_le
    simp only [Within, fields, Array.toList_push, List.forall_mem_append, List.forall_mem_singleton,
      List.length_append, List.length_singleton, Array.length_toList, Array.size_push]
    tauto
  | close mode =>
    cases done
    simp [Within, fields, endField, or_imp, forall_and]

theorem carryOut_limit (short : r.field.size ≤ most) (c : CodePoint) (move : Move) :
    r.carryOut (some most) c move = (r.carryOut none c move).bind (confine most) := by
  cases move with
  | turn mode => simp [carryOut, Except.bind, confine, short]
  | keep mode =>
    by_cases full : most ≤ r.field.size
    · have beyond : ¬r.field.size + 1 ≤ most := by omega
      simp [carryOut, add, Except.bind, confine, full, beyond]
    · have free : r.field.size + 1 ≤ most := by omega
      simp [carryOut, add, Except.bind, confine, full, free]
  | close mode => simp [carryOut, Except.bind, confine, endField]

/-! ## One code point -/

theorem exists_carryOut_of_take (taken : r.take limit c = .ok s) :
    ∃ move m, Move.of? r.mode c = some move ∧ r.carryOut limit c move = .ok m ∧ m.settle = s := by
  rw [take, step_eq] at taken
  cases found : Move.of? r.mode c with
  | none =>
    rw [found] at taken
    cases taken
  | some move =>
    rw [found] at taken
    cases done : r.carryOut limit c move with
    | error fault =>
      simp only [done] at taken
      cases taken
    | ok m =>
      simp only [done] at taken
      cases taken
      exact ⟨move, m, rfl, done, rfl⟩

theorem take_limit (short : r.field.size ≤ most) (c : CodePoint) :
    r.take (some most) c = (r.take none c).bind (confine most) := by
  rw [take, take, step_eq, step_eq]
  cases Move.of? r.mode c with
  | none => rfl
  | some move =>
    obtain ⟨m, done⟩ := exists_carryOut_none r c move
    simp only [carryOut_limit short, done, Except.bind, Except.map, confine, field_settle]
    by_cases fits : m.field.size ≤ most
    · simp only [if_pos fits]
    · simp only [if_neg fits]

/-- Between two code points of a scan no line ending is waited for, and nothing is left of the row
before where a row starts. -/
structure IsSettled (r : Reader) : Prop where
  mode_ne : r.mode ≠ .rowEnd
  blank : r.mode = .rowStart → r.row = #[] ∧ r.field = #[]

theorem isSettled_start : start.IsSettled :=
  ⟨nofun, fun _ => ⟨rfl, rfl⟩⟩

/-- Where a row ends, its last field has been put away. -/
theorem IsSettled.field_eq_of_carryOut {m : Reader} {move : Move} (settled : r.IsSettled)
    (found : Move.of? r.mode c = some move) (done : r.carryOut limit c move = .ok m)
    (ended : m.mode = .rowEnd) : m.field = #[] := by
  have mode := (mode_rows_of_carryOut done).1
  rw [ended] at mode
  cases move with
  | turn next =>
    cases mode
    cases done
    have start := (Move.mode_of_turn_rowEnd found).resolve_right settled.mode_ne
    exact (settled.blank start).2
  | keep next =>
    cases mode
    exact absurd found Move.of?_ne_keep_rowEnd
  | close next =>
    cases done
    rfl

theorem IsSettled.of_take (settled : r.IsSettled) (taken : r.take limit c = .ok s) :
    s.IsSettled := by
  obtain ⟨move, m, found, done, rfl⟩ := exists_carryOut_of_take taken
  refine ⟨mode_settle_ne m, fun start => ?_⟩
  have begun : m.mode ≠ .rowStart := by
    rw [(mode_rows_of_carryOut done).1]
    exact Move.mode_ne_rowStart found
  unfold settle at start ⊢
  by_cases ended : m.mode = .rowEnd
  · have put := settled.field_eq_of_carryOut found done ended
    rw [if_pos ended]
    split
    · next blank => exact ⟨by simpa using blank, put⟩
    · exact ⟨rfl, put⟩
  · rw [if_neg ended] at start
    exact absurd start begun

theorem IsSettled.exists_take_eq_ok (settled : r.IsSettled) (c : CodePoint) :
    ∃ s, r.take none c = .ok s := by
  rw [take, step_eq]
  cases found : Move.of? r.mode c with
  | none => exact absurd (Move.mode_of_none found) settled.mode_ne
  | some move =>
    obtain ⟨m, done⟩ := exists_carryOut_none r c move
    exact ⟨m.settle, by simp only [done, Except.map]⟩

theorem within_take_iff (taken : r.take none c = .ok s) :
    s.Within most ↔ r.Within most ∧ s.field.size ≤ most := by
  obtain ⟨move, m, -, done, rfl⟩ := exists_carryOut_of_take taken
  rw [Within, fields_settle, field_settle]
  exact within_carryOut_iff done

/-! ## A text -/

theorem IsSettled.exists_scan_eq_ok (settled : r.IsSettled) (t : Text) :
    ∃ s, r.scan none t = .ok s ∧ s.IsSettled := by
  induction t generalizing r with
  | nil => exact ⟨r, rfl, settled⟩
  | cons c t ih =>
    obtain ⟨m, taken⟩ := settled.exists_take_eq_ok c
    rw [scan_cons, taken]
    exact ih (settled.of_take taken)

/-- A field that is too long stays so. -/
theorem Within.of_scan (read : r.scan none t = .ok s) (within : s.Within most) :
    r.Within most := by
  induction t generalizing r with
  | nil =>
    cases read
    exact within
  | cons c t ih =>
    rw [scan_cons] at read
    obtain ⟨m, taken, read⟩ := Except.exists_of_bind_eq_ok read
    exact ((within_take_iff taken).mp (ih read)).1

/-- With a limit a text is read in the same way, unless a field gets too long. -/
theorem scan_limit (within : r.Within most) (read : r.scan none t = .ok s) :
    r.scan (some most) t = if s.Within most then .ok s else .error (.fieldTooLong most) := by
  induction t generalizing r with
  | nil =>
    cases read
    rw [if_pos within]
    rfl
  | cons c t ih =>
    rw [scan_cons] at read
    obtain ⟨m, taken, read⟩ := Except.exists_of_bind_eq_ok read
    have short : r.field.size ≤ most := by
      simpa using within r.field.toList (List.mem_append_right _ (List.mem_singleton_self _))
    rw [scan_cons, take_limit short, taken]
    simp only [Except.bind, confine]
    by_cases fits : m.field.size ≤ most
    · rw [if_pos fits]
      exact ih ((within_take_iff taken).mpr ⟨within, fits⟩) read
    · rw [if_neg fits, if_neg]
      intro all
      exact fits ((within_take_iff taken).mp (all.of_scan read)).2

theorem forall_mem_flatten_iff {rows : List (List Text)} :
    (∀ field ∈ rows.flatten, field.length ≤ most) ↔
      ∀ row ∈ rows, ∀ field ∈ row, field.length ≤ most := by
  simp only [List.mem_flatten]
  constructor
  · exact fun all row listed field inside => all field ⟨row, listed, inside⟩
  · rintro all field ⟨row, listed, inside⟩
    exact all row listed field inside

/-- The fields of the rows that a scan finds are those it has begun. -/
theorem IsSettled.within_iff (settled : r.IsSettled) :
    r.Within most ↔ ∀ row ∈ r.close, ∀ field ∈ row, field.length ≤ most := by
  rw [← forall_mem_flatten_iff]
  by_cases start : r.mode = .rowStart
  · obtain ⟨row, field⟩ := settled.blank start
    have same : r.fields = r.close.flatten ++ [[]] := by simp [fields, close, start, row, field]
    simp only [Within, same, List.forall_mem_append, List.forall_mem_singleton, List.length_nil,
      Nat.zero_le, and_true]
  · have same : r.close.flatten = r.fields := by
      simp [close, fields, start, endField, endRow]
    rw [Within, same]

end Reader

open Reader

/-- Rows that are dropped hold no field. -/
theorem forall_field_filter_iff {p : Text → Prop} {rows : List (List Text)} :
    (∀ row ∈ rows.filter (! ·.isEmpty), ∀ field ∈ row, p field) ↔
      ∀ row ∈ rows, ∀ field ∈ row, p field := by
  constructor
  · intro all row listed field inside
    have filled : (! row.isEmpty) = true := by
      rw [List.isEmpty_eq_false_iff.mpr (List.ne_nil_of_mem inside)]
      rfl
    exact all row (List.mem_filter.mpr ⟨listed, filled⟩) field inside
  · exact fun all row listed => all row (List.mem_filter.mp listed).1

/-- Without a limit every text is read, and a limit makes no other difference than to refuse the
texts in which a field exceeds it. -/
theorem read_limit (t : Text) : ∃ rows, readAll none t = .ok rows ∧ ∀ most,
    read (some most) t =
      if ∀ row ∈ rows, ∀ field ∈ row, field.length ≤ most
      then .ok (rows.filter (! ·.isEmpty)) else .error (.fieldTooLong most) := by
  obtain ⟨s, scanned, settled⟩ := isSettled_start.exists_scan_eq_ok t
  have unlimited := read_eq_scan none t
  rw [scanned, read] at unlimited
  cases whole : readAll none t with
  | error fault =>
    rw [whole] at unlimited
    cases unlimited
  | ok rows =>
    rw [whole] at unlimited
    have kept : rows.filter (! ·.isEmpty) = s.close := Except.ok.inj unlimited
    have fields (most : Nat) : s.Within most ↔
        ∀ row ∈ rows, ∀ field ∈ row, field.length ≤ most := by
      rw [settled.within_iff, ← kept]
      exact forall_field_filter_iff
    refine ⟨rows, rfl, fun most => ?_⟩
    rw [read_eq_scan, scan_limit (within_start most) scanned, kept]
    by_cases within : s.Within most
    · rw [if_pos within, if_pos ((fields most).mp within)]
      rfl
    · rw [if_neg within, if_neg (mt (fields most).mpr within)]
      rfl

end EventScript.Csv
