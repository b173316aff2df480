import EventScript.Csv.Reader

/-!
# Reading without lines

The reader is handed lines, but it need not be: a line ending outside quotation marks can end its
row at once, and rows without fields can be passed over as they come. A scan does so, one code point
after the other, and finds the same rows. Unlike the reader it can be stopped anywhere.
-/

namespace EventScript.Csv

/-- What the reader does with a code point, apart from the limit on fields: it turns to another
mode, and before that it may put the code point into the field, or end the field. -/
inductive Move
  | turn (mode : Mode)
  | keep (mode : Mode)
  | close (mode : Mode)
  deriving DecidableEq

namespace Move

def atFieldStart (c : CodePoint) : Move :=
  if Reader.isBreak c then .close .rowEnd
  else if c = '"' then .turn .quoted
  else if c = ',' then .close .fieldStart
  else .keep .plain

/-- The move of a reader, which only its mode and the code point decide. -/
def of? (mode : Mode) (c : CodePoint) : Option Move :=
  match mode with
  | .rowStart => some (if Reader.isBreak c then .turn .rowEnd else atFieldStart c)
  | .fieldStart => some (atFieldStart c)
  | .plain =>
    some (if Reader.isBreak c then .close .rowEnd
      else if c = ',' then .close .fieldStart else .keep .plain)
  | .quoted => some (if c = '"' then .turn .markInQuoted else .keep .quoted)
  | .markInQuoted =>
    some (if c = '"' then .keep .quoted
      else if Reader.isBreak c then .close .rowEnd
      else if c = ',' then .close .fieldStart else .keep .plain)
  | .rowEnd => if Reader.isBreak c then some (.turn .rowEnd) else none

def mode : Move → Mode
  | turn mode | keep mode | close mode => mode

theorem mode_atFieldStart_ne (c : CodePoint) : (atFieldStart c).mode ≠ .rowStart := by
  unfold atFieldStart
  repeat' split
  all_goals exact nofun

theorem mode_ne_rowStart {mode : Mode} {c : CodePoint} {move : Move}
    (found : of? mode c = some move) : move.mode ≠ .rowStart := by
  cases mode with
  | rowStart =>
    simp only [of?, Option.some.injEq] at found
    subst found
    split
    · exact nofun
    · exact mode_atFieldStart_ne c
  | fieldStart =>
    simp only [of?, Option.some.injEq] at found
    subst found
    exact mode_atFieldStart_ne c
  | plain | quoted | markInQuoted =>
    simp only [of?, Option.some.injEq] at found
    subst found
    repeat' split
    all_goals exact nofun
  | rowEnd =>
    simp only [of?] at found
    split at found
    · cases found
      exact nofun
    · cases found

end Move

namespace Reader

def carryOut (limit : Option Nat) (r : Reader) (c : CodePoint) : Move → Except Fault Reader
  | .turn mode => .ok { r with mode }
  | .keep mode => r.add limit c mode
  | .close mode => .ok (r.endField mode)

theorem beginField_eq (limit : Option Nat) (r : Reader) (c : CodePoint) :
    r.beginField limit c = r.carryOut limit c (Move.atFieldStart c) := by
  unfold beginField Move.atFieldStart
  split
  · rfl
  · split
    · rfl
    · split <;> rfl

theorem step_eq (limit : Option Nat) (r : Reader) (c : CodePoint) :
    r.step limit c =
      match Move.of? r.mode c with
      | some move => r.carryOut limit c move
      | none => .error .breakInField := by
  obtain ⟨mode, field, row, rows⟩ := r
  cases mode with
  | rowStart =>
    simp only [step, Move.of?, beginField_eq]
    split <;> rfl
  | fieldStart => simp only [step, Move.of?, beginField_eq]
  | plain | quoted | markInQuoted =>
    simp only [step, Move.of?]
    repeat' split
    all_goals rfl
  | rowEnd =>
    simp only [step, Move.of?]
    split <;> rfl

/-- End a row at its line ending, without a look at what follows. -/
def settle (r : Reader) : Reader :=
  if r.mode = .rowEnd then
    if r.row.isEmpty then { r with mode := .rowStart } else r.endRow
  else r

def take (limit : Option Nat) (r : Reader) (c : CodePoint) : Except Fault Reader :=
  (r.step limit c).map settle

def scan (limit : Option Nat) (r : Reader) (t : Text) : Except Fault Reader :=
  t.foldlM (take limit) r

/-- The rows of a scan at the end of its text. -/
def close (r : Reader) : List (List Text) :=
  if r.mode = .rowStart then r.rows.toList else (r.endField .rowEnd).endRow.rows.toList

def withRows (rows : Array (List Text)) (r : Reader) : Reader :=
  { r with rows }

/-- A reader as a scan of the same text would have left it. -/
def tidy (r : Reader) : Reader :=
  let settled := if r.mode = .rowEnd then r.endRow else r
  settled.withRows (settled.rows.filter (! ·.isEmpty))

theorem scan_append (limit : Option Nat) (r : Reader) (front back : Text) :
    r.scan limit (front ++ back) = (r.scan limit front).bind fun s => s.scan limit back :=
  List.foldlM_append

theorem scan_cons (limit : Option Nat) (r : Reader) (c : CodePoint) (t : Text) :
    r.scan limit (c :: t) = (r.take limit c).bind fun s => s.scan limit t :=
  List.foldlM_cons

theorem add_withRows (limit : Option Nat) (c : CodePoint) (mode : Mode) (r : Reader)
    (rows : Array (List Text)) :
    (r.withRows rows).add limit c mode = (r.add limit c mode).map (withRows rows) := by
  cases limit with
  | none => rfl
  | some limit =>
    by_cases full : limit ≤ r.field.size <;> simp [add, withRows, full, Except.map]

/-- What a reader does with a code point has nothing to do with the rows before. -/
theorem carryOut_withRows (limit : Option Nat) (r : Reader) (c : CodePoint) (move : Move)
    (rows : Array (List Text)) :
    (r.withRows rows).carryOut limit c move = (r.carryOut limit c move).map (withRows rows) := by
  cases move with
  | turn mode => rfl
  | keep mode => exact add_withRows limit c mode r rows
  | close mode => rfl

theorem mode_rows_of_carryOut {limit : Option Nat} {r s : Reader} {c : CodePoint} {move : Move}
    (done : r.carryOut limit c move = .ok s) : s.mode = move.mode ∧ s.rows = r.rows := by
  cases move with
  | turn mode =>
    cases done
    exact ⟨rfl, rfl⟩
  | close mode =>
    cases done
    exact ⟨rfl, rfl⟩
  | keep mode =>
    cases limit with
    | none =>
      cases done
      exact ⟨rfl, rfl⟩
    | some limit =>
      simp only [carryOut, add] at done
      split at done
      · cases done
      · cases done
        exact ⟨rfl, rfl⟩

theorem settle_withRows (r : Reader) :
    (r.withRows (r.rows.filter (! ·.isEmpty))).settle = r.tidy := by
  by_cases ended : r.mode = .rowEnd
  · by_cases blank : r.row.toList = []
    · simp [settle, tidy, withRows, endRow, ended, Array.toList_eq_nil_iff.mp blank]
    · have kept : r.row ≠ #[] := fun same => blank (same ▸ rfl)
      simp [settle, tidy, withRows, endRow, ended, kept]
  · simp [settle, tidy, withRows, ended]

theorem take_eq_self_of_isBreak {limit : Option Nat} {r : Reader} {c : CodePoint}
    (start : r.mode = .rowStart) (blank : r.row = #[]) (ends : isBreak c = true) :
    r.take limit c = .ok r := by
  obtain ⟨mode, field, row, rows⟩ := r
  simp only at start blank
  subst start blank
  simp [take, step, ends, Except.map, settle]

/-- A scan keeps up with the reader. A reader that has met a line ending waits for nothing but
another one. -/
theorem take_tidy (limit : Option Nat) (r : Reader) (c : CodePoint)
    (pending : r.mode = .rowEnd → isBreak c = true) :
    r.tidy.take limit c = (r.step limit c).map tidy := by
  by_cases ended : r.mode = .rowEnd
  · have rested : r.step limit c = .ok r := by
      rw [step_eq, ended]
      simp only [Move.of?, pending ended, if_true, carryOut]
      rw [← ended]
    have start : r.tidy.mode = .rowStart := by simp [tidy, ended, withRows, endRow]
    have blank : r.tidy.row = #[] := by simp [tidy, ended, withRows, endRow]
    rw [rested, take_eq_self_of_isBreak start blank (pending ended)]
    rfl
  · have same : r.tidy = r.withRows (r.rows.filter (! ·.isEmpty)) := by simp [tidy, ended]
    rw [take, step_eq, step_eq, same]
    cases found : Move.of? r.mode c with
    | none => simp [withRows, found, Except.map]
    | some move =>
      simp only [withRows, found]
      rw [show ({ r with rows := r.rows.filter (! ·.isEmpty) } : Reader) =
        r.withRows (r.rows.filter (! ·.isEmpty)) from rfl, carryOut_withRows]
      cases done : r.carryOut limit c move with
      | error fault => rfl
      | ok s =>
        have rows := (mode_rows_of_carryOut done).2
        simp only [Except.map]
        rw [← rows, settle_withRows]

theorem readChars_append (limit : Option Nat) (r : Reader) (front back : Text) :
    r.readChars limit (front ++ back) =
      (r.readChars limit front).bind fun s => s.readChars limit back := by
  induction front generalizing r with
  | nil => rfl
  | cons c front ih =>
    rw [List.cons_append, readChars, readChars]
    cases r.step limit c with
    | error fault => rfl
    | ok s => exact ih s

theorem readLines_cons (limit : Option Nat) (r : Reader) (line : Text) (lines : List Text) :
    r.readLines limit (line :: lines) =
      (r.readChars limit line).bind fun s => s.endLine.readLines limit lines := by
  rw [readLines]
  cases r.readChars limit line <;> rfl

theorem tidy_endLine {r : Reader} (ended : r.mode = .rowEnd ∨ r.mode = .quoted) :
    r.endLine.tidy = r.tidy := by
  rcases ended with ended | ended
  · simp [endLine, tidy, ended, endRow]
  · simp [endLine, ended]

theorem mode_endLine (r : Reader) : r.endLine.mode = .rowStart ∨ r.endLine.mode = .quoted := by
  obtain ⟨mode, field, row, rows⟩ := r
  cases mode <;> simp [endLine, endRow, endField]

/-- After a line ending the reader has ended the row, or is between quotation marks. -/
theorem mode_of_step_isBreak {limit : Option Nat} {r s : Reader} {c : CodePoint}
    (ends : isBreak c = true) (stepped : r.step limit c = .ok s) :
    s.mode = .rowEnd ∨ s.mode = .quoted := by
  have noMark : c ≠ CodePoint.ofChar '"' := by
    rintro rfl
    revert ends
    decide
  have noComma : c ≠ CodePoint.ofChar ',' := by
    rintro rfl
    revert ends
    decide
  rw [step_eq] at stepped
  split at stepped
  · next move found =>
    rw [(mode_rows_of_carryOut stepped).1]
    cases mode : r.mode <;>
      simp only [mode, Move.of?, ends, noMark, if_true, if_false, Option.some.injEq] at found <;>
      subst found <;> simp [Move.mode, Move.atFieldStart, ends]
  · cases stepped

theorem isBreak_of_step_rowEnd {limit : Option Nat} {r s : Reader} {c : CodePoint}
    (stepped : r.step limit c = .ok s) (ended : s.mode = .rowEnd) : isBreak c = true := by
  rw [step_eq] at stepped
  split at stepped
  · next move found =>
    rw [(mode_rows_of_carryOut stepped).1] at ended
    apply Decidable.byContradiction
    intro noBreak
    cases mode : r.mode with
    | rowEnd => simp [mode, Move.of?, noBreak] at found
    | _ =>
      simp only [mode, Move.of?, Move.atFieldStart, noBreak, if_false, Option.some.injEq] at found
      subst found
      repeat' split at ended
      all_goals cases ended
  · cases stepped

theorem mode_ne_rowStart_of_step {limit : Option Nat} {r s : Reader} {c : CodePoint}
    (stepped : r.step limit c = .ok s) : s.mode ≠ .rowStart := by
  rw [step_eq] at stepped
  split at stepped
  · next move found =>
    rw [(mode_rows_of_carryOut stepped).1]
    exact Move.mode_ne_rowStart found
  · cases stepped

theorem finish_eq_close {r : Reader} (resting : r.mode = .rowStart ∨ r.mode = .quoted) :
    r.finish.filter (! ·.isEmpty) = r.tidy.close := by
  obtain ⟨mode, field, row, rows⟩ := r
  rcases resting with resting | resting <;> simp only at resting <;> subst resting <;>
    simp [finish, close, tidy, withRows, endField, endRow]

theorem finish_endLine_eq_close {r : Reader} (begun : r.mode ≠ .rowStart) :
    r.endLine.finish.filter (! ·.isEmpty) = r.tidy.close := by
  obtain ⟨mode, field, row, rows⟩ := r
  cases mode with
  | rowStart => exact absurd rfl begun
  | _ => simp [endLine, finish, close, tidy, withRows, endField, endRow]

end Reader

theorem linesFrom_eq_append (done : List Text) (line t : Text) :
    Text.linesFrom done line t = done.reverse ++ Text.linesFrom [] line t := by
  induction t generalizing done line with
  | nil => by_cases blank : line = [] <;> simp [Text.linesFrom, blank]
  | cons c t ih =>
    simp only [Text.linesFrom]
    split
    · rw [ih, ih [(c :: line).reverse]]
      simp
    · exact ih done (c :: line)

open Reader

/-- A fault in a line is found, however the line goes on. -/
theorem readLines_linesFrom_of_error {limit : Option Nat} {before : Reader} {line : Text}
    {fault : Fault} (failed : before.readChars limit line.reverse = .error fault) (t : Text) :
    before.readLines limit (Text.linesFrom [] line t) = .error fault := by
  induction t generalizing line with
  | nil =>
    have nonempty : line ≠ [] := by
      rintro rfl
      cases failed
    simp only [Text.linesFrom, nonempty, if_false, List.reverse_singleton, readLines_cons, failed]
    rfl
  | cons c t ih =>
    have longer : before.readChars limit (c :: line).reverse = .error fault := by
      rw [List.reverse_cons, readChars_append, failed]
      rfl
    simp only [Text.linesFrom]
    split
    · rw [linesFrom_eq_append, List.reverse_singleton, List.singleton_append, readLines_cons,
        longer]
      rfl
    · exact ih longer

/-- In the middle of a line the reader is where a scan is, except that it may still wait for the
line feed after a carriage return. What can be seen of it after the last line, if it shows in the
scan already, is the same. -/
theorem readLines_linesFrom {α : Type} {seen shown : Reader → α}
    (atRest : ∀ s : Reader, s.mode = .rowStart ∨ s.mode = .quoted → seen s = shown s.tidy)
    (atEnd : ∀ s : Reader, s.mode ≠ .rowStart → seen s.endLine = shown s.tidy)
    (limit : Option Nat) (before r : Reader) (line t : Text)
    (reading : before.readChars limit line.reverse = .ok r)
    (pending : r.mode = .rowEnd → t.head? = some (CodePoint.ofChar '\n'))
    (fresh : line = [] → r.mode = .rowStart ∨ r.mode = .quoted)
    (begun : line ≠ [] → r.mode ≠ .rowStart) :
    (before.readLines limit (Text.linesFrom [] line t)).map seen =
      (r.tidy.scan limit t).map shown := by
  induction t generalizing before r line with
  | nil =>
    by_cases blank : line = []
    · subst blank
      cases reading
      simp only [Text.linesFrom, if_true, List.reverse_nil, readLines, scan, List.foldlM_nil]
      exact congrArg Except.ok (atRest before (fresh rfl))
    · simp only [Text.linesFrom, blank, if_false, List.reverse_singleton, readLines_cons, reading]
      exact congrArg Except.ok (atEnd r (begun blank))
  | cons c t ih =>
    have waiting : r.mode = .rowEnd → isBreak c = true := by
      intro ended
      have feed : c = CodePoint.ofChar '\n' := by simpa using pending ended
      simp [isBreak, feed]
    have further : before.readChars limit (c :: line).reverse = r.step limit c := by
      rw [List.reverse_cons, readChars_append, reading]
      simp only [Except.bind, readChars]
      cases r.step limit c <;> rfl
    rw [scan_cons, take_tidy limit r c waiting]
    simp only [Text.linesFrom]
    split
    · next ends =>
      have breaks : isBreak c = true := by
        simp only [isBreak, Bool.or_eq_true, decide_eq_true_eq]
        exact ends.imp_right And.left
      rw [linesFrom_eq_append, List.reverse_singleton, List.singleton_append, readLines_cons,
        further]
      cases stepped : r.step limit c with
      | error fault => rfl
      | ok s =>
        have rested := mode_endLine s
        have continued := ih s.endLine s.endLine [] rfl
          (fun ended => by rcases rested with same | same <;> rw [same] at ended <;> cases ended)
          (fun _ => rested) (fun nonempty => absurd rfl nonempty)
        rw [tidy_endLine (mode_of_step_isBreak breaks stepped)] at continued
        exact continued
    · next goesOn =>
      cases stepped : r.step limit c with
      | error fault =>
        rw [readLines_linesFrom_of_error (further.trans stepped)]
        rfl
      | ok s =>
        refine ih before s (c :: line) (further.trans stepped) ?_
          (fun empty => absurd empty (List.cons_ne_nil c line))
          (fun _ => mode_ne_rowStart_of_step stepped)
        intro ended
        have breaks := isBreak_of_step_rowEnd stepped ended
        simp only [isBreak, Bool.or_eq_true, decide_eq_true_eq] at breaks
        rcases breaks with feed | carriage
        · exact absurd (Or.inl feed) goesOn
        · exact Decidable.byContradiction fun other => goesOn (Or.inr ⟨carriage, other⟩)

/-- Whatever the reader shows after the lines of a text a scan of the text shows. -/
theorem map_readLines_eq {α : Type} {seen shown : Reader → α}
    (atRest : ∀ s : Reader, s.mode = .rowStart ∨ s.mode = .quoted → seen s = shown s.tidy)
    (atEnd : ∀ s : Reader, s.mode ≠ .rowStart → seen s.endLine = shown s.tidy)
    (limit : Option Nat) (t : Text) :
    (Reader.start.readLines limit t.lines).map seen = (Reader.start.scan limit t).map shown := by
  have resting : Reader.start.mode = .rowStart := rfl
  exact readLines_linesFrom atRest atEnd limit .start .start [] t rfl nofun (fun _ => .inl resting)
    (fun nonempty => absurd rfl nonempty)

/-- The rows of a text are those that a scan of it finds. -/
theorem read_eq_scan (limit : Option Nat) (t : Text) :
    read limit t = (Reader.start.scan limit t).map close := by
  rw [← map_readLines_eq (fun _ => finish_eq_close) (fun _ => finish_endLine_eq_close), read,
    readAll]
  cases Reader.start.readLines limit t.lines <;> rfl

end EventScript.Csv
