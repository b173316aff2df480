import EventScript.Console.Cells
import EventScript.Text.Blank

/-!
# Filling lines

A text is broken into lines that fit a console. A word moves to the next line as a whole if it fits
there, and is cut where no line could hold it.
-/

namespace EventScript

/-- The width of the console in cells. -/
def consoleWidth : Nat := 80

namespace Text

/-- What follows the first word and the blanks on both sides of it. -/
def afterWord (t : Text) : Text :=
  ((t.dropWhile (·.isBlank)).dropWhile (!·.isBlank)).dropWhile (·.isBlank)

theorem length_afterWord_lt {t : Text} (h : t ≠ []) : (afterWord t).length < t.length := by
  have shorter (p : CodePoint → Bool) (u : Text) : (u.dropWhile p).length ≤ u.length :=
    (List.dropWhile_sublist p).length_le
  obtain ⟨c, rest, rfl⟩ := List.exists_cons_of_ne_nil h
  unfold afterWord
  refine Nat.lt_of_le_of_lt (shorter _ _) ?_
  by_cases blank : c.isBlank
  · rw [List.dropWhile_cons_of_pos blank]
    exact Nat.lt_succ_of_le (Nat.le_trans (shorter _ _) (shorter _ _))
  · rw [List.dropWhile_cons_of_neg blank, List.dropWhile_cons_of_pos (by simp [blank])]
    exact Nat.lt_succ_of_le (shorter _ _)

/-- The words of a line, each with the blanks that follow it, the first also with those before it.
-/
def words (t : Text) : List Text :=
  match _line : t with
  | [] => []
  | c :: rest =>
    let next := afterWord (c :: rest)
    (c :: rest).take ((c :: rest).length - next.length) :: words next
  termination_by t.length
  decreasing_by exact length_afterWord_lt (by simp)

/-- Cut into pieces of at most `width` cells; `piece` is the one being filled. -/
def cutFrom (width : Nat) (piece : Cluster) : List Cluster → List Text
  | [] => [piece.text]
  | cluster :: rest =>
    if piece.cells + cluster.cells ≤ width then
      cutFrom width ⟨piece.text ++ cluster.text, piece.cells + cluster.cells⟩ rest
    else piece.text :: cutFrom width cluster rest

/-- Blanks after a word count for what follows, but need no room themselves. -/
def wordCells (word : Text) : Nat :=
  Text.cells (word.reverse.dropWhile (·.isBlank)).reverse

/-- Put words on lines; `line` is the one being filled, and `used` what its words fill. -/
def placeFrom (width : Nat) (line : Text) (used : Nat) : List Text → List Text
  | [] => [line]
  | word :: rest =>
    if used + word.wordCells ≤ width then placeFrom width (line ++ word) (used + word.cells) rest
    else if word.wordCells ≤ width then line :: placeFrom width word word.cells rest
    else
      let pieces := cutFrom width ⟨[], 0⟩ (Cluster.ofText word)
      let last := pieces.getLast?.getD []
      (if line = [] then [] else [line]) ++ pieces.dropLast ++
        placeFrom width last last.cells rest

/-- Without as many of the last blanks as there are code points beyond `width`. -/
def dropLastBlanks (width : Nat) (line : Text) : Text :=
  let blanks := (line.reverse.takeWhile (·.isBlank)).length
  line.take (line.length - min blanks (line.length - width))

/-- The clusters that fit. Where only half of one would, a space stands for it. -/
def cropFrom (width : Nat) : List Cluster → Text
  | [] => []
  | cluster :: rest =>
    if cluster.cells ≤ width then cluster.text ++ cropFrom (width - cluster.cells) rest
    else List.replicate width ' '

def crop (width : Nat) (line : Text) : Text :=
  if line.cells ≤ width then line else cropFrom width (Cluster.ofText line)

/-- A tab is a space that reaches to the next column that is a multiple of eight. -/
def alignFrom (column : Nat) : List Text → Text
  | [] => []
  | [last] => last
  | part :: rest =>
    let part := part ++ [CodePoint.ofChar ' ']
    let reached := column + part.cells
    let next := (reached + 7) / 8 * 8
    part ++ List.replicate (next - reached) (CodePoint.ofChar ' ') ++ alignFrom next rest

def expandTabs (line : Text) : Text :=
  alignFrom 0 (splitOn '\t' line)

def fillLine (width : Nat) (line : Text) : List Text :=
  (placeFrom width [] 0 (words (expandTabs line))).map fun line =>
    crop width (dropLastBlanks width line)

/-- Break the lines of a text so that each fits into `width` cells. -/
def fill (width : Nat) (t : Text) : List Text :=
  (splitOn '\n' t).flatMap (fillLine width)

/-! ## Highlighting -/

def isBracket (c : CodePoint) : Bool :=
  c = '(' || c = ')' || c = '[' || c = ']' || c = '\x7b' || c = '\x7d'

/-- Each bracket by itself, and what stands between brackets. -/
def parts (line : Text) : List Text :=
  line.splitBy fun c d => !isBracket c && !isBracket d

def cropParts (width : Nat) : List Text → Text
  | [] => []
  | part :: rest =>
    if part.cells < width then part ++ cropParts (width - part.cells) rest else crop width part

/-- Brackets are drawn apart, so that nothing joins a bracket to what comes before it. A line can
become too long by that. -/
def highlight (width : Nat) (line : Text) : Text :=
  if (parts line).foldr (fun part n => part.cells + n) 0 ≤ width then line
  else cropParts width (parts line)

end Text

end EventScript
