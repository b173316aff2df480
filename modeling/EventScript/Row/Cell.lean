import EventScript.Failure

/-!
# Text cells

Texts are taken as they are, and other scalars are spelled the way a data file spells them. Lists
and dictionaries have no such spelling, and a null could not be told from the terminator of the
text.
-/

namespace EventScript.Row

/-- A double without fraction is spelled as an integer, whatever its sign of zero. -/
def spellDouble (x : Double) : Except Numeral.Fault Text :=
  match x.toInt? with
  | some n => if Numeral.isWritable n then .ok (Numeral.write n) else .error .unwritable
  | none => .ok x.write

def spell (row : Int) (column : Text) : Value → Except Failure Text
  | .text t => .ok t
  | .null => .ok "null"
  | .bool b => .ok (if b then "true" else "false")
  | .int n =>
    if Numeral.isWritable n then .ok (Numeral.write n)
    else .error (.brokeDown (.numeral .unwritable))
  | .double x => (spellDouble x).mapError fun fault => .brokeDown (.numeral fault)
  | .list _ => .error (.refused (.cell row column .list))
  | .dict _ => .error (.refused (.cell row column .dict))

def text (row : Int) (column : Text) (cell : Value) : Except Failure Text :=
  match spell row column cell with
  | .error failure => .error failure
  | .ok t => if t.hasNull then .error (.refused (.cell row column .null)) else .ok t

end EventScript.Row
