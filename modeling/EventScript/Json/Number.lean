import EventScript.Number.Word
import EventScript.Value

/-!
# Numbers of a JSON text

A number without fraction and exponent is an integer of any size; any other is a double, infinite if
no double is large enough.
-/

namespace EventScript.Json

/-- The parts of a number as they are written. -/
structure NumberLiteral where
  negative : Bool
  whole : Text
  fraction : Option Text
  exponent : Option (Text × Text)
  deriving DecidableEq, Repr

namespace NumberLiteral

def length (n : NumberLiteral) : Nat :=
  (if n.negative then 1 else 0) + n.whole.length
    + (n.fraction.map fun digits => 1 + digits.length).getD 0
    + (n.exponent.map fun (sign, digits) => 1 + sign.length + digits.length).getD 0

/-- The digits before the point: a zero stands alone, any other first digit may be followed. -/
def scanWhole? : Text → Option (Text × Text)
  | [] => none
  | c :: rest =>
    if c = '0' then some ([c], rest)
    else if c.isDigit then some (c :: rest.takeWhile (·.isDigit), rest.dropWhile (·.isDigit))
    else none

/-- A point belongs to the number only if a digit follows it. -/
def scanFraction (t : Text) : Option Text × Text :=
  match t with
  | [] => (none, t)
  | c :: rest =>
    let digits := rest.takeWhile (·.isDigit)
    if c = '.' ∧ digits ≠ [] then (some digits, rest.drop digits.length) else (none, t)

/-- An exponent belongs to the number only if it has a digit. -/
def scanExponent (t : Text) : Option (Text × Text) :=
  match t with
  | [] => none
  | c :: rest =>
    let sign := (rest.take 1).filter fun (c : CodePoint) => c = '+' ∨ c = '-'
    let digits := (rest.drop sign.length).takeWhile (·.isDigit)
    if (c = 'e' ∨ c = 'E') ∧ digits ≠ [] then some (sign, digits) else none

def scan? (t : Text) : Option NumberLiteral :=
  let negative := t.head? == some (CodePoint.ofChar '-')
  match scanWhole? (if negative then t.drop 1 else t) with
  | none => none
  | some (whole, rest) =>
    let (fraction, rest) := scanFraction rest
    some ⟨negative, whole, fraction, scanExponent rest⟩

/-- The literal of an integer. -/
def integerText (n : NumberLiteral) : Text :=
  if n.negative then '-' :: n.whole else n.whole

end NumberLiteral

/-- Integers of more code points than this stand for words only. -/
def exactLimit : Nat := 4000

def integer (literal : Text) : Except Numeral.Fault Int :=
  if exactLimit < literal.length then Word.ofDecimal Word.decimalChunk literal
  else Numeral.read literal

def NumberLiteral.toValue (n : NumberLiteral) : Except Numeral.Fault Value :=
  match n.fraction, n.exponent with
  | none, none =>
    match integer n.integerText with
    | .error fault => .error fault
    | .ok i => .ok (.int i)
  | fraction, exponent =>
    let decimals := fraction.getD []
    let power : Int := match exponent with
      | none => 0
      | some (sign, digits) =>
        if sign = Text.ofString "-" then -(Numeral.ofDigits digits : Int)
        else Numeral.ofDigits digits
    .ok (.double (.ofScientific n.negative (Numeral.ofDigits (n.whole ++ decimals))
      (power - decimals.length)))

end EventScript.Json
