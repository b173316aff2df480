import EventScript.Number.Numeral

/-!
# Double precision numbers

The finite magnitudes are numbered in increasing order from zero, which is how their words are laid
out: 2⁵² of them share an exponent, except that the first two groups have the same one.
-/

namespace EventScript

/-- How many magnitudes share an exponent. -/
def Double.groupSize : Nat := 1 <<< 52

inductive Double
  | nan
  | infinite (negative : Bool)
  | finite (negative : Bool) (index : Fin (2047 * Double.groupSize))
  deriving DecidableEq, Repr

namespace Double

/-- The magnitude of an index is `significand index * 2 ^ exponent index`. -/
def significand (index : Nat) : Nat :=
  if index < groupSize then index else groupSize + index % groupSize

def exponent (index : Nat) : Int :=
  if index < groupSize then -1074 else index / groupSize - 1075

/-- A magnitude as a quotient of natural numbers. -/
def ratio (index : Nat) : Nat × Nat :=
  (significand index <<< (exponent index).toNat, 1 <<< (-exponent index).toNat)

/-- The value of a finite double without fractional part. -/
def toInt? : Double → Option Int
  | finite negative index =>
    let (numerator, denominator) := ratio index
    if numerator % denominator = 0 then
      let n : Int := (numerator / denominator : Nat)
      some (if negative then -n else n)
    else none
  | _ => none

/-- The quotient rounded to the nearest natural number, a half to the even neighbour. -/
def roundDiv (numerator denominator : Nat) : Nat :=
  let whole := numerator / denominator
  let rest := 2 * (numerator % denominator)
  if rest < denominator ∨ (rest = denominator ∧ whole % 2 = 0) then whole else whole + 1

/-- The greatest power of two that is not above a positive quotient. -/
def floorLog2 (numerator denominator : Nat) : Int :=
  let estimate : Int := Nat.log2 numerator - Nat.log2 denominator
  if denominator <<< estimate.toNat ≤ numerator <<< (-estimate).toNat then estimate
  else estimate - 1

/-- The index nearest to a positive quotient; beyond the last index the quotient is too large. -/
def nearestIndex (numerator denominator : Nat) : Nat :=
  let scale := max (floorLog2 numerator denominator - 52) (-1074)
  (scale + 1074).toNat * groupSize
    + roundDiv (numerator <<< (-scale).toNat) (denominator <<< scale.toNat)

def ofIndex (negative : Bool) (index : Nat) : Double :=
  if h : index < 2047 * groupSize then finite negative ⟨index, h⟩ else infinite negative

/-- The double nearest to the decimal `digits * 10 ^ scale`. Decimals far outside the range of
doubles are not worked out. -/
def ofScientific (negative : Bool) (digits : Nat) (scale : Int) : Double :=
  let size := scale + (Numeral.digits digits).length
  if digits = 0 ∨ size < -330 then ofIndex negative 0
  else if 310 < size then infinite negative
  else ofIndex negative (nearestIndex (digits * Nat.pow 10 scale.toNat) (Nat.pow 10 (-scale).toNat))

end Double

end EventScript
