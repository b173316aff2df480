import EventScript.Command
import EventScript.Console
import EventScript.Csv.Reader
import EventScript.FileTree
import EventScript.Json.Reader

/-!
# Failures

A refusal is a verdict of the compiler on its source, its settings or its output. A breakdown is
what no rule of the compiler provides for: a number too long to be shown, a source nested too deeply
to be read, a path the system cannot take, a stamp that disturbs the markup around it, typed input
that is no text, an interruption where nobody waits for one.
-/

namespace EventScript

/-- Why a cell cannot be stored as a text. -/
inductive CellFlaw
  | list
  | dict
  | null
  deriving DecidableEq, Repr

def CellFlaw.message : CellFlaw → Text
  | .list => "must be text, not list"
  | .dict => "must be text, not dict"
  | .null => "contains a null byte"

/-- What a script cannot carry. -/
inductive EncodingFault
  | timer (n : Int)
  | nullInText (t : Text)
  | textNotUtf8 (t : Text) (run : Unencodable)
  | magicSize (size : Nat)
  | stampNotAscii (run : Unencodable)
  | stamp (t : Text)
  deriving DecidableEq, Repr

/-- A part of a JSON source that should have been a list, and where it stands: under a key or an
index, or at the top. -/
structure Misfit where
  location : Text
  value : Value
  atTop : Bool

inductive Refusal
  | unsupportedFormat (extension : Text)
  | notUtf8 (path : Path) (fault : Utf8.Fault)
  | unreadable (path : Path) (reason : FileTree.Refusal)
  | malformedCsv (fault : Csv.Fault)
  | malformedJson (fault : Json.Fault) (place : Json.Place)
  | misshapen (misfit : Misfit)
  | rowLength (row : Int) (length : Nat)
  | timer (row : Int) (v : Value)
  | cell (row : Int) (column : Text) (flaw : CellFlaw)
  | empty
  | encoding (fault : EncodingFault)
  | unwritable (path : Path) (reason : FileTree.Refusal)
  | declined (path : Path)

inductive Breakdown
  | numeral (fault : Numeral.Fault)
  | namelessPath (path : Path)
  | unspeakablePath (reason : FileTree.Unspeakable)
  | pathTooLong (path : Path)
  | nesting (container : Json.Container)
  | console (fault : Console.Fault)
  | garbledInput (fault : Utf8.Fault)
  | interrupted

inductive Failure
  | refused (refusal : Refusal)
  | brokeDown (breakdown : Breakdown)

namespace Unencodable

/-- Where the run stands: a single code point by name, a longer run by its ends. -/
def place (run : Unencodable) : Text :=
  if run.length = 1 then
    .concat ["character '", run.first.escape, "' in position ", Numeral.digits run.start]
  else
    .concat ["characters in position ", Numeral.digits run.start, "-",
      Numeral.digits (run.start + run.length - 1)]

def utf8Message (run : Unencodable) : Text :=
  .concat ["'utf-8' codec can't encode ", run.place, ": surrogates not allowed"]

def asciiMessage (run : Unencodable) : Text :=
  .concat ["'ascii' codec can't encode ", run.place, ": ordinal not in range(128)"]

end Unencodable

namespace Utf8

def Flaw.message : Flaw → Text
  | .start => "invalid start byte"
  | .continuation => "invalid continuation byte"
  | .ending => "unexpected end of data"

def Fault.message (fault : Fault) : Text :=
  let place := match fault.bytes with
    | [b] => .concat ["byte 0x", Text.hex 2 b.toNat, " in position ", Numeral.digits fault.position]
    | bytes =>
      .concat ["bytes in position ", Numeral.digits fault.position, "-",
        Numeral.digits (fault.position + bytes.length - 1)]
  .concat ["'utf-8' codec can't decode ", place, ": ", fault.flaw.message]

end Utf8

def EncodingFault.message : EncodingFault → Text
  | .timer n => .concat ["Timer ", Numeral.write n, " does not fit in 64 bits."]
  | .nullInText t => .concat ["Text field ", t.quoted, " contains a null byte."]
  | .textNotUtf8 t run =>
    .concat ["Text field ", t.quoted, " is not valid UTF-8: ", run.utf8Message]
  | .magicSize size => .concat ["Magic header must be 4 bytes, got ", Numeral.digits size, "."]
  | .stampNotAscii run => .concat ["Version stamp must be ASCII: ", run.asciiMessage]
  | .stamp t => .concat ["Version stamp ", t.quoted, " is not valid."]

def Misfit.message (misfit : Misfit) : Text :=
  .concat ["Parsing game data failed at ",
    if misfit.location = [] then "top level" else misfit.location, ": ", misfit.value.display,
    " is not of type ", if misfit.atTop then "'array', 'object'" else "'array'"]

namespace Refusal

/-- The row that a refusal is about, if it is about one. -/
def row? : Refusal → Option Int
  | rowLength row _ | timer row _ | cell row _ _ => some row
  | _ => none

/-- Messages about a row begin with its number. -/
def inRow (row : Int) (message : Text) : Text :=
  .concat ["Row ", Numeral.write row, ": ", message]

def message : Refusal → Text
  | unsupportedFormat extension => .concat ["File format '", extension, "' not supported."]
  | notUtf8 path fault =>
    .concat ["File '", path.toText, "' is not valid UTF-8: ", fault.message]
  | unreadable path reason => .concat ["Unable to read '", path.toText, "': ", reason.message]
  | malformedCsv fault => .concat ["Malformed CSV data: ", fault.message]
  | malformedJson fault place => .concat ["Malformed JSON data: ", place.report fault]
  | misshapen misfit => misfit.message
  | rowLength row length =>
    inRow row (.concat ["incorrect length (expected ", Numeral.digits Command.columnCount,
      " fields, got ", Numeral.digits length, ")."])
  | timer row v => inRow row (.concat ["timer ", v.display, " is not an integer."])
  | cell row column flaw => inRow row (.concat ["field '", column, "' ", flaw.message, "."])
  | empty => "No data generated."
  | encoding fault => fault.message
  | unwritable path reason => .concat ["Unable to write '", path.toText, "': ", reason.message]
  | declined path => .concat ["Output file '", path.toText, "' already exists."]

end Refusal

/-- How a message shows a path itself rather than the file it leads to. -/
def Path.display (path : Path) : Text :=
  .concat ["PosixPath(", path.toText.quoted, ")"]

def Breakdown.message : Breakdown → Text
  | .numeral fault => fault.message
  | .namelessPath path => .concat [path.display, " has an empty name"]
  | .unspeakablePath (.surrogate run) => run.utf8Message
  | .unspeakablePath .null => "embedded null byte"
  | .pathTooLong path => .concat ["[Errno 36] File name too long: ", path.toText.quoted]
  | .nesting container => container.message
  | .console fault => fault.message
  | .garbledInput fault => fault.message
  | .interrupted => []

def Failure.message : Failure → Text
  | .refused refusal => refusal.message
  | .brokeDown breakdown => breakdown.message

end EventScript
