import EventScript.Text.Lines
import EventScript.Number.Numeral

/-!
# Reading comma-separated rows

The reader takes a text line by line and a line code point by code point. A quotation mark matters
only where a field begins: from there to the next single mark commas and line endings belong to the
field, and a doubled mark stands for one. Whatever follows the closing mark is taken as it is. A
field left open by the end of the text ends there.
-/

namespace EventScript.Csv

/-- Where the reader stands in a row. -/
inductive Mode
  | rowStart
  | fieldStart
  | plain
  | quoted
  | markInQuoted
  | rowEnd
  deriving DecidableEq, Repr

structure Reader where
  mode : Mode
  field : Array CodePoint
  row : Array Text
  rows : Array (List Text)

inductive Fault
  | fieldTooLong (limit : Nat)
  | breakInField
  deriving DecidableEq, Repr

def Fault.message : Fault → Text
  | .fieldTooLong limit =>
    .concat ["field larger than field limit (", Numeral.digits limit, ")"]
  | .breakInField =>
    "new-line character seen in unquoted field - do you need to open the file with newline=''?"

namespace Reader

def start : Reader := ⟨.rowStart, #[], #[], #[]⟩

/-- Put `c` into the field, which may hold no more than `limit` code points. -/
def add (limit : Option Nat) (c : CodePoint) (mode : Mode) (r : Reader) : Except Fault Reader :=
  match limit with
  | some limit =>
    if limit ≤ r.field.size then .error (.fieldTooLong limit)
    else .ok { r with mode, field := r.field.push c }
  | none => .ok { r with mode, field := r.field.push c }

def endField (mode : Mode) (r : Reader) : Reader :=
  { r with mode, field := #[], row := r.row.push r.field.toList }

def endRow (r : Reader) : Reader :=
  { r with mode := .rowStart, row := #[], rows := r.rows.push r.row.toList }

def isBreak (c : CodePoint) : Bool :=
  c = '\n' || c = '\r'

def beginField (limit : Option Nat) (c : CodePoint) (r : Reader) : Except Fault Reader :=
  if isBreak c then .ok (r.endField .rowEnd)
  else if c = '"' then .ok { r with mode := .quoted }
  else if c = ',' then .ok (r.endField .fieldStart)
  else r.add limit c .plain

def step (limit : Option Nat) (r : Reader) (c : CodePoint) : Except Fault Reader :=
  match r.mode with
  | .rowStart => if isBreak c then .ok { r with mode := .rowEnd } else r.beginField limit c
  | .fieldStart => r.beginField limit c
  | .plain =>
    if isBreak c then .ok (r.endField .rowEnd)
    else if c = ',' then .ok (r.endField .fieldStart)
    else r.add limit c .plain
  | .quoted =>
    if c = '"' then .ok { r with mode := .markInQuoted } else r.add limit c .quoted
  | .markInQuoted =>
    if c = '"' then r.add limit c .quoted
    else if isBreak c then .ok (r.endField .rowEnd)
    else if c = ',' then .ok (r.endField .fieldStart)
    else r.add limit c .plain
  | .rowEnd => if isBreak c then .ok r else .error .breakInField

/-- The end of a line ends the row unless it lies between quotation marks. -/
def endLine (r : Reader) : Reader :=
  match r.mode with
  | .rowStart | .rowEnd => r.endRow
  | .fieldStart | .plain | .markInQuoted => (r.endField .rowEnd).endRow
  | .quoted => r

def readChars (limit : Option Nat) (r : Reader) : Text → Except Fault Reader
  | [] => .ok r
  | c :: rest =>
    match r.step limit c with
    | .error fault => .error fault
    | .ok r => readChars limit r rest

def readLines (limit : Option Nat) (r : Reader) : List Text → Except Fault Reader
  | [] => .ok r
  | line :: rest =>
    match r.readChars limit line with
    | .error fault => .error fault
    | .ok r => readLines limit r.endLine rest

/-- The rows read, the one left open included. -/
def finish (r : Reader) : List (List Text) :=
  match r.mode with
  | .quoted => (r.endField .rowEnd).endRow.rows.toList
  | _ => r.rows.toList

end Reader

/-- The rows of a text, an empty line being a row without fields. -/
def readAll (limit : Option Nat) (t : Text) : Except Fault (List (List Text)) :=
  match Reader.start.readLines limit t.lines with
  | .error fault => .error fault
  | .ok r => .ok r.finish

/-- The rows that have fields. -/
def read (limit : Option Nat) (t : Text) : Except Fault (List (List Text)) :=
  match readAll limit t with
  | .error fault => .error fault
  | .ok rows => .ok (rows.filter (! ·.isEmpty))

/-- The most code points that a field of a source may have. -/
def fieldLimit : Nat := 131072

end EventScript.Csv
