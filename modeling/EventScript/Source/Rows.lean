import EventScript.Source.Format
import EventScript.Source.Shape
import EventScript.Text.Lines

/-!
# Rows of a source

A source is read from a text or from the bytes of a file. One byte order mark before the text of a
file is dropped. A CSV file keeps its line endings, which fields may contain; a JSON file has them
unified, which changes nothing in it.
-/

namespace EventScript.Source

def rowsOfCsv (t : Text) : Except Failure (List Row) :=
  match Csv.read (some Csv.fieldLimit) t with
  | .error fault => .error (.refused (.malformedCsv fault))
  | .ok rows => .ok (rows.map fun fields => fields.map Value.text)

/-- A text that is nested too deeply for the reader is not refused, but lets it break down. -/
def rowsOfJson (levels : Option Nat) (t : Text) : Except Failure (List Row) :=
  match Json.read levels t with
  | .error (.refused refusal) =>
    .error (.refused (.malformedJson refusal.fault (.of t refusal.position)))
  | .error (.nested container) => .error (.brokeDown (.nesting container))
  | .ok v => rowsOfValue v

def rowsOfText (levels : Option Nat) (format : SourceFormat) (t : Text) :
    Except Failure (List Row) :=
  match format with
  | .csv => rowsOfCsv t
  | .json => rowsOfJson levels t

def byteOrderMark : Bytes := [0xEF, 0xBB, 0xBF]

/-- The text of a file. A file that is no more than the beginning of a mark is empty. -/
def decode (bytes : Bytes) : Except Utf8.Fault Text :=
  if bytes.length < byteOrderMark.length ∧ bytes.isPrefixOf byteOrderMark then .ok []
  else if byteOrderMark.isPrefixOf bytes then Utf8.decode (bytes.drop byteOrderMark.length)
  else Utf8.decode bytes

def textOfFile (format : SourceFormat) (bytes : Bytes) : Except Utf8.Fault Text :=
  match format with
  | .csv => decode bytes
  | .json => (decode bytes).map Text.unifyBreaks

/-- The bytes of the file that a path leads to. -/
def contentOf (tree : FileTree) (path : Path) : Except Failure Bytes :=
  match FileTree.unspeakable? path.toText with
  | some reason => .error (.brokeDown (.unspeakablePath reason))
  | none =>
    match tree.content path with
    | .error reason => .error (.refused (.unreadable path reason))
    | .ok bytes => .ok bytes

def rowsOfFile (levels : Option Nat) (tree : FileTree) (path : Path) :
    Except Failure (SourceFormat × List Row) := do
  let format ← SourceFormat.ofPath path
  let bytes ← contentOf tree path
  let t ← (textOfFile format bytes).mapError fun fault => .refused (.notUtf8 path fault)
  let rows ← rowsOfText levels format t
  return (format, rows)

end EventScript.Source
