import EventScript.Text.Printable

/-!
# Quoted form

How a message shows a text: between quotation marks, with a backslash before whatever could be
mistaken and an escape for whatever could not be seen.
-/

namespace EventScript

namespace CodePoint

/-- An escape that names a code point by its number, in the shortest width that holds it. -/
def escape (c : CodePoint) : Text :=
  if c.val ≤ 0xFF then "\\x" ++ Text.hex 2 c.val
  else if c.val ≤ 0xFFFF then "\\u" ++ Text.hex 4 c.val
  else "\\U" ++ Text.hex 8 c.val

/-- The form of `c` between two marks `mark`. -/
def quotedBy (mark c : CodePoint) : Text :=
  if c = mark ∨ c = '\\' then ['\\', c]
  else if c = '\t' then "\\t"
  else if c = '\n' then "\\n"
  else if c = '\r' then "\\r"
  else if c.isPrintable then [c]
  else c.escape

end CodePoint

namespace Text

/-- Single marks, unless the text has single marks and no double ones. -/
def quotationMark (t : Text) : CodePoint :=
  if t.contains (CodePoint.ofChar '\'') && !t.contains (CodePoint.ofChar '"') then '"' else '\''

def quoted (t : Text) : Text :=
  let mark := t.quotationMark
  mark :: t.flatMap (CodePoint.quotedBy mark) ++ [mark]

end Text

end EventScript
