import EventScript.Failure
import EventScript.Number.Word

/-!
# Timer cells

A timer is a whole number: an integer, a double without fraction, or a text that spells one. Numbers
beyond 64 bits wrap and are never refused.
-/

namespace EventScript.Row

/-- An optional sign and at least one ASCII digit. -/
def isDecimal (t : Text) : Bool :=
  let unsigned := match t with
    | c :: rest => if c = '+' ∨ c = '-' then rest else t
    | [] => t
  unsigned ≠ [] && unsigned.all (·.isDigit)

def digitBelow? (base : Nat) (c : CodePoint) : Option Nat :=
  c.digitValue?.filter (· < base)

/-- The number of one or more digits below `base`. -/
def ofBase? (base : Nat) (t : Text) : Option Nat :=
  if t = [] then none
  else t.foldlM (fun n c => (digitBelow? base c).map (n * base + ·)) 0

/-- The base that the letter after a leading zero announces. -/
def base? (c : CodePoint) : Option Nat :=
  if c = 'x' ∨ c = 'X' then some 16
  else if c = 'o' ∨ c = 'O' then some 8
  else if c = 'b' ∨ c = 'B' then some 2
  else none

/-- The number of an unsigned literal that names its base. -/
def ofPrefixed? : Text → Option Nat
  | c :: letter :: digits => if c = '0' then (base? letter).bind (ofBase? · digits) else none
  | _ => none

/-- The number that a text spells, blanks around it aside; an empty text is zero. -/
def ofTimerText? (t : Text) : Except Numeral.Fault (Option Int) :=
  let literal := t.strip
  if literal = [] then .ok (some 0)
  else if isDecimal literal then (Word.ofDecimal Word.decimalChunk literal).map some
  else .ok ((ofPrefixed? literal).map Int.ofNat)

/-- The refusal of a timer shows it, which a very long integer inside it can prevent. -/
def refuseTimer (row : Int) (cell : Value) : Failure :=
  if cell.isDisplayable then .refused (.timer row cell) else .brokeDown (.numeral .unwritable)

def timer (row : Int) (cell : Value) : Except Failure Int :=
  match cell with
  | .int n => .ok (Word.wrap n)
  | .double x =>
    match x.toInt? with
    | some n => .ok (Word.wrap n)
    | none => .error (refuseTimer row cell)
  | .text t =>
    match ofTimerText? t with
    | .ok (some n) => .ok (Word.wrap n)
    | .ok none => .error (refuseTimer row cell)
    | .error fault => .error (.brokeDown (.numeral fault))
  | _ => .error (refuseTimer row cell)

end EventScript.Row
