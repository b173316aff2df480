import EventScript.Text.Blank
import EventScript.Text.DecimalDigit
import EventScript.Text.Quoted

/-!
# Decimal numerals

Reading is generous, as for a number typed by hand: blanks around it, one sign, single underscores
between digits, digits of any script. Writing uses ASCII digits and a minus alone. Converting more
than `conversionLimit` digits in either direction is refused.
-/

namespace EventScript.Numeral

def digit (d : Nat) : CodePoint :=
  CodePoint.hexDigit (d % 10)

/-- The digits of `n` in front of `rest`. -/
def digitsOnto (n : Nat) (rest : Text) : Text :=
  if n < 10 then digit n :: rest else digitsOnto (n / 10) (digit n :: rest)

/-- The digits of `n`, the highest first, none of them superfluous. -/
def digits (n : Nat) : Text :=
  digitsOnto n []

def write (n : Int) : Text :=
  if n < 0 then '-' :: digits n.natAbs else digits n.natAbs

/-- The number that a text of ASCII digits denotes. -/
def ofDigits (t : Text) : Nat :=
  t.foldl (fun n c => n * 10 + (c.val - 48)) 0

/-- The blanks allowed around a numeral: the information separators are not among them. -/
def isMargin (c : CodePoint) : Bool :=
  if c.isAscii then c.val == 0x20 || (9 ≤ c.val && c.val ≤ 13) else c.isBlank

/-- What has been read of a run of digits: its value, and whether a digit came last. -/
structure Progress where
  value : Nat
  afterDigit : Bool

def Progress.next? (progress : Progress) (c : CodePoint) : Option Progress :=
  match c.decimalValue? with
  | some d => some ⟨progress.value * 10 + d, true⟩
  | none => if c = '_' ∧ progress.afterDigit then some ⟨progress.value, false⟩ else none

def readDigits? (t : Text) : Option Nat :=
  match t.foldlM Progress.next? ⟨0, false⟩ with
  | some ⟨value, true⟩ => some value
  | _ => none

def readSigned? : Text → Option Int
  | [] => none
  | c :: rest =>
    if c = '-' then (readDigits? rest).map fun n => -(n : Int)
    else if c = '+' then (readDigits? rest).map Int.ofNat
    else (readDigits? (c :: rest)).map Int.ofNat

inductive Fault
  | notNumeral (literal : Text)
  | unreadable (digits : Nat)
  | unwritable
  deriving DecidableEq, Repr

/-- The most digits that are converted between a number and its numeral. -/
def conversionLimit : Nat := 4300

def isWritable (n : Int) : Bool :=
  n.natAbs < Nat.pow 10 conversionLimit

/-- The number that a text denotes, however long it is. -/
def readUnlimited (t : Text) : Except Fault Int :=
  match readSigned? (t.trim isMargin) with
  | some n => .ok n
  | none => .error (.notNumeral t)

/-- A text with more digits than `conversionLimit` is not read. -/
def read (t : Text) : Except Fault Int :=
  let count := t.countP (·.decimalValue?.isSome)
  if conversionLimit < count then .error (.unreadable count) else readUnlimited t

def Fault.message : Fault → Text
  | .notNumeral literal =>
    .concat ["invalid literal for int() with base 10: ", literal.quoted]
  | .unreadable count =>
    .concat ["Exceeds the limit (", digits conversionLimit,
      " digits) for integer string conversion: value has ", digits count,
      " digits; use sys.set_int_max_str_digits() to increase the limit"]
  | .unwritable =>
    .concat ["Exceeds the limit (", digits conversionLimit,
      " digits) for integer string conversion; use sys.set_int_max_str_digits() to increase",
      " the limit"]

end EventScript.Numeral
