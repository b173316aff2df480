import EventScript.Failure
import EventScript.Script.Layout

/-!
# Output paths

Without another wish a script goes next to its source, under the name of the source without its
extensions.
-/

namespace EventScript.Output

/-- A name without its extensions. What is left of a name is read as a path again, so that a single
dot counts as nothing. -/
def bareName (name : Text) : Text :=
  match _divided : Path.splitExtension? name with
  | none => name
  | some (stem, _) => bareName (Path.ofText stem).name
  termination_by name.length
  decreasing_by
    have := Path.length_lt_of_splitExtension? ‹_›
    have := Path.length_name_ofText_le stem
    omega

def defaultPath (source : Path) : Path :=
  source.parent.child (bareName source.name ++ Script.extension)

/-- Give a path the extension of scripts. -/
def addExtension (path : Path) : Except Failure Path :=
  if path.name = [] then .error (.brokeDown (.namelessPath path))
  else .ok (path.parent.child (path.name ++ Script.extension))

/-- The path that a script is written to: the one asked for, with an extension if it has none. An
empty wish is none. -/
def path (source : Path) (wish : Option Text) : Except Failure Path :=
  match wish with
  | none | some [] => .ok (defaultPath source)
  | some wish =>
    let path := Path.ofText wish
    if path.extension = [] then addExtension path else .ok path

end EventScript.Output
