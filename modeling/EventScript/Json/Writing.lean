import EventScript.Text.Basic

/-!
# Writing JSON

Tables of texts as a list of lists or as a dictionary of lists, in ASCII alone.
-/

namespace EventScript.Json

def unicodeEscape (n : Nat) : Text :=
  "\\u" ++ Text.hex 4 n

/-- The two halves of a code point beyond U+FFFF, each as an escape. -/
def pairEscape (c : CodePoint) : Text :=
  unicodeEscape (0xD800 + (c.val - 0x10000) / 0x400) ++
    unicodeEscape (0xDC00 + (c.val - 0x10000) % 0x400)

def writeChar (c : CodePoint) : Text :=
  if c = '"' ∨ c = '\\' then ['\\', c]
  else if c = '\n' then "\\n"
  else if c = '\r' then "\\r"
  else if c = '\t' then "\\t"
  else if c = '\x0c' then "\\f"
  else if c = '\x08' then "\\b"
  else if 0x20 ≤ c.val ∧ c.val < 0x7F then [c]
  else if c.val < 0x10000 then unicodeEscape c.val
  else pairEscape c

def writeText (t : Text) : Text :=
  CodePoint.ofChar '"' :: t.flatMap writeChar ++ [CodePoint.ofChar '"']

/-- Items between two brackets. -/
def enclose (opening closing : CodePoint) (items : List Text) : Text :=
  opening :: Text.joinWith ", " items ++ [closing]

def writeRow (cells : List Text) : Text :=
  enclose '[' ']' (cells.map writeText)

def writeRows (rows : List (List Text)) : Text :=
  enclose '[' ']' (rows.map writeRow)

/-- Rows under keys. -/
def writeMembers (members : List (Text × List Text)) : Text :=
  enclose '\x7b' '\x7d' (members.map fun (key, cells) => writeText key ++ ": " ++ writeRow cells)

end EventScript.Json
