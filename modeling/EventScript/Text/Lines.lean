import EventScript.Text.Basic

/-!
# Lines

A line is ended by a line feed, by a carriage return, or by both in this order, and keeps what ends
it. Only the last line may lack an ending.
-/

namespace EventScript.Text

/-- Lines found so far are in `done`, the last one first; `line` is the one being read, its last
code point first. A carriage return before a line feed does not end the line yet. -/
def linesFrom (done : List Text) (line : Text) : Text → List Text
  | [] => (if line = [] then done else line.reverse :: done).reverse
  | c :: rest =>
    if c = '\n' ∨ (c = '\r' ∧ rest.head? ≠ some (CodePoint.ofChar '\n')) then
      linesFrom ((c :: line).reverse :: done) [] rest
    else linesFrom done (c :: line) rest

def lines (t : Text) : List Text :=
  linesFrom [] [] t

theorem flatten_linesFrom (done : List Text) (line t : Text) :
    (linesFrom done line t).flatten = done.reverse.flatten ++ line.reverse ++ t := by
  induction t generalizing done line with
  | nil => by_cases h : line = [] <;> simp [linesFrom, h]
  | cons c rest ih =>
    simp only [linesFrom]
    split <;> simp [ih]

@[simp] theorem flatten_lines (t : Text) : (lines t).flatten = t := by
  simp [lines, flatten_linesFrom]

def unifyBreaksFrom (done : Text) : Text → Text
  | [] => done.reverse
  | c :: rest =>
    if c = '\r' then
      if rest.head? = some (CodePoint.ofChar '\n') then unifyBreaksFrom done rest
      else unifyBreaksFrom ('\n' :: done) rest
    else unifyBreaksFrom (c :: done) rest

/-- Every line ending becomes a line feed. -/
def unifyBreaks (t : Text) : Text :=
  unifyBreaksFrom [] t

@[simp] theorem unifyBreaks_nil : unifyBreaks [] = [] := rfl

end EventScript.Text
