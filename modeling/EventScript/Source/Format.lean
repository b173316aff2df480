import EventScript.Failure
import EventScript.Text.Lowercase

/-!
# Source formats

The extension of a path decides how its file is read, whatever the case of its letters.
-/

namespace EventScript

inductive SourceFormat
  | csv
  | json
  deriving DecidableEq, Repr

namespace SourceFormat

def all : List SourceFormat := [csv, json]

def name : SourceFormat → Text
  | csv => "csv"
  | json => "json"

/-- The extension by which a format is found: in small letters and without dots. -/
def extensionOf (path : Path) : Text :=
  path.extension.lower.dropWhile fun (c : CodePoint) => c = '.'

def ofPath (path : Path) : Except Failure SourceFormat :=
  match all.find? fun format => format.name = extensionOf path with
  | some format => .ok format
  | none => .error (.refused (.unsupportedFormat (extensionOf path)))

end SourceFormat

end EventScript
