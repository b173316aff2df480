import EventScript.Text.Basic

/-!
# Tables as they are written

A table can be written in many ways: any cell may be quoted, some must be, every line may end in
one of three ways, and empty lines may stand anywhere.
-/

namespace EventScript.Csv

inductive LineEnd
  | feed
  | carriage
  | both
  deriving DecidableEq, Repr

def LineEnd.text : LineEnd → Text
  | feed => "\n"
  | carriage => "\r"
  | both => "\r\n"

structure WrittenCell where
  text : Text
  isQuoted : Bool
  deriving DecidableEq, Repr

namespace WrittenCell

def doubleMark (c : CodePoint) : Text :=
  if c = '"' then [c, c] else [c]

def written (cell : WrittenCell) : Text :=
  if cell.isQuoted then
    CodePoint.ofChar '"' :: cell.text.flatMap doubleMark ++ [CodePoint.ofChar '"']
  else cell.text

/-- What has to be quoted. -/
def isSpecial (c : CodePoint) : Bool :=
  c = ',' || c = '\n' || c = '\r'

/-- Without quotation marks the text must not look like the end of a cell or like a quoted one. -/
def isValid (cell : WrittenCell) : Bool :=
  cell.isQuoted ||
    (!cell.text.any isSpecial && cell.text.head? != some (CodePoint.ofChar '"'))

end WrittenCell

abbrev WrittenRow := List WrittenCell

namespace WrittenRow

def written (row : WrittenRow) : Text :=
  Text.joinWith "," (row.map WrittenCell.written)

def cells (row : WrittenRow) : List Text :=
  row.map WrittenCell.text

/-- A row has a cell, and is not written as nothing, since that is an empty line. -/
def isValid (row : WrittenRow) : Bool :=
  !row.isEmpty && row.all WrittenCell.isValid && row != [⟨[], false⟩]

end WrittenRow

inductive WrittenLine
  | empty (ending : LineEnd)
  | row (row : WrittenRow) (ending : LineEnd)
  deriving DecidableEq, Repr

namespace WrittenLine

def written : WrittenLine → Text
  | empty ending => ending.text
  | row cells ending => WrittenRow.written cells ++ ending.text

def row? : WrittenLine → Option WrittenRow
  | empty _ => none
  | row cells _ => some cells

end WrittenLine

/-- Lines, and perhaps a last row that only the end of the text ends. -/
structure WrittenTable where
  lines : List WrittenLine
  last : Option WrittenRow

namespace WrittenTable

def written (table : WrittenTable) : Text :=
  table.lines.flatMap WrittenLine.written ++ (table.last.map WrittenRow.written).getD []

def writtenRows (table : WrittenTable) : List WrittenRow :=
  table.lines.filterMap WrittenLine.row? ++ table.last.toList

/-- The table itself. -/
def rows (table : WrittenTable) : List (List Text) :=
  table.writtenRows.map WrittenRow.cells

def isValid (table : WrittenTable) : Bool :=
  table.writtenRows.all WrittenRow.isValid

/-- Every cell quoted, and a line feed after every row. -/
def quotedThroughout (rows : List (List Text)) : WrittenTable where
  lines := rows.map fun cells => .row (cells.map fun t => ⟨t, true⟩) .feed
  last := none

@[simp] theorem rows_quotedThroughout (rows : List (List Text)) :
    (quotedThroughout rows).rows = rows := by
  have cells (row : List Text) : WrittenRow.cells (row.map fun t => ⟨t, true⟩) = row := by
    simp [WrittenRow.cells, Function.comp_def]
  simp [quotedThroughout, WrittenTable.rows, writtenRows, WrittenLine.row?, Function.comp_def,
    cells]

end WrittenTable

end EventScript.Csv
