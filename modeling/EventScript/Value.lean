import EventScript.Number.Double.Shortest

/-!
# Raw values

A cell of a source table before anything is asked of it: what a JSON text can hold. Cells of a CSV
text are always texts.
-/

namespace EventScript

inductive Value
  | null
  | bool (b : Bool)
  | int (n : Int)
  | double (x : Double)
  | text (t : Text)
  | list (items : List Value)
  | dict (members : List (Text × Value))

abbrev Row := List Value

namespace Value

mutual

/-- How a message shows a value. -/
def display : Value → Text
  | null => "None"
  | bool b => if b then "True" else "False"
  | int n => Numeral.write n
  | double x => x.write
  | text t => t.quoted
  | list items => .concat ["[", displayItems items, "]"]
  | dict members => .concat ["\x7b", displayMembers members, "\x7d"]

def displayItems : List Value → Text
  | [] => []
  | [v] => v.display
  | v :: w :: rest => .concat [v.display, ", ", displayItems (w :: rest)]

def displayMembers : List (Text × Value) → Text
  | [] => []
  | [(key, v)] => .concat [key.quoted, ": ", v.display]
  | (key, v) :: next :: rest =>
    .concat [key.quoted, ": ", v.display, ", ", displayMembers (next :: rest)]

end

mutual

/-- Whether a message can show the value: no integer in it is too long to be written. -/
def isDisplayable : Value → Bool
  | int n => Numeral.isWritable n
  | list items => areDisplayable items
  | dict members => haveDisplayable members
  | _ => true

def areDisplayable : List Value → Bool
  | [] => true
  | v :: rest => v.isDisplayable && areDisplayable rest

def haveDisplayable : List (Text × Value) → Bool
  | [] => true
  | (_, v) :: rest => v.isDisplayable && haveDisplayable rest

end

/-- Give `key` the value `v`. A key that is there already keeps its place. -/
def insertMember (members : List (Text × Value)) (key : Text) (v : Value) : List (Text × Value) :=
  match members with
  | [] => [(key, v)]
  | (other, w) :: rest =>
    if other = key then (key, v) :: rest else (other, w) :: insertMember rest key v

/-- A dictionary of members read one after the other. -/
def ofMembers (members : List (Text × Value)) : Value :=
  .dict (members.foldl (fun held member => insertMember held member.1 member.2) [])

end Value

end EventScript
