import EventScript.Number.Double

/-!
# The shortest decimal of a double

Of the decimals that round to a double, the one with the fewest digits, and of those the nearest.
Either of the two multiples of a power of ten around the magnitude is the nearest one on its grid,
so the grids are tried from one digit on; seventeen digits tell all doubles apart.
-/

namespace EventScript.Double

/-- The decimals that round to a magnitude lie between `low` and `high`, in units of a quarter of
its last place; the ends belong to them if the significand is even. -/
structure Neighbourhood where
  low : Nat
  high : Nat
  closed : Bool
  unit : Int

/-- Below a power of two the next magnitude is only half as far away as above. -/
def neighbourhood (index : Nat) : Neighbourhood where
  low := 4 * significand index - if index % groupSize = 0 ∧ groupSize < index then 1 else 2
  high := 4 * significand index + 2
  closed := significand index % 2 = 0
  unit := exponent index - 2

/-- Compare `a * 10 ^ p` with `b * 2 ^ q`. -/
def compareScaled (a : Nat) (p : Int) (b : Nat) (q : Int) : Ordering :=
  compare ((a * Nat.pow 10 p.toNat) <<< (-q).toNat) ((b * Nat.pow 10 (-p).toNat) <<< q.toNat)

def Neighbourhood.contains (n : Neighbourhood) (digits : Nat) (scale : Int) : Bool :=
  let fromLow := compareScaled digits scale n.low n.unit
  let fromHigh := compareScaled digits scale n.high n.unit
  (fromLow == .gt || (n.closed && fromLow == .eq)) &&
    (fromHigh == .lt || (n.closed && fromHigh == .eq))

/-- The power of ten of the first digit of a positive quotient. -/
def floorLog10 (numerator denominator : Nat) : Int :=
  if denominator ≤ numerator then (Numeral.digits (numerator / denominator)).length - 1
  else -(Numeral.digits ((denominator - 1) / numerator)).length

/-- The nearest of the two neighbours on the grid of multiples of `10 ^ scale`, of those that round
to the magnitude; of two equally near ones the even one. -/
def onGrid? (index : Nat) (scale : Int) : Option Nat :=
  let (numerator, denominator) := ratio index
  let top := numerator * Nat.pow 10 (-scale).toNat
  let bottom := denominator * Nat.pow 10 scale.toNat
  let below := top / bottom
  let rest := 2 * (top % bottom)
  let near := neighbourhood index
  match near.contains below scale, near.contains (below + 1) scale with
  | true, true =>
    some (if rest < bottom ∨ (rest = bottom ∧ below % 2 = 0) then below else below + 1)
  | true, false => some below
  | false, true => some (below + 1)
  | false, false => none

/-- The digits of a positive magnitude and the power of ten of the last of them. -/
def shortest (index : Nat) : Nat × Int :=
  let (numerator, denominator) := ratio index
  let leading := floorLog10 numerator denominator
  let grids := (List.range 17).map fun (more : Nat) => leading - more
  (grids.findSome? fun scale => (onGrid? index scale).map (·, scale)).getD (numerator, 0)

/-- How a decimal is laid out: positional while its first digit stands for a power of ten from
`positionalFrom` up to `positionalTo`, else with an exponent of at least `exponentWidth` digits. -/
structure Layout where
  positionalFrom : Int
  positionalTo : Int
  exponentWidth : Nat

/-- Positional from 0.0001 to below 10¹⁶. -/
def layout : Layout := ⟨-4, 15, 2⟩

def trimZeros (digits : Text) : Text :=
  (digits.reverse.dropWhile fun (c : CodePoint) => c = '0').reverse

def positional (digits : Text) (leading : Int) : Text :=
  if leading < 0 then
    .concat ["0.", List.replicate (-leading - 1).toNat '0', digits]
  else
    let count := leading.toNat + 1
    let fraction := digits.drop count
    .concat [digits.take count, List.replicate (count - digits.length) '0', ".",
      if fraction = [] then "0" else fraction]

def scientific (layout : Layout) (digits : Text) (leading : Int) : Text :=
  let power := Numeral.digits leading.natAbs
  let fraction := digits.drop 1
  .concat [digits.take 1, if fraction = [] then [] else '.' :: fraction, "e",
    if leading < 0 then "-" else "+",
    List.replicate (layout.exponentWidth - power.length) '0', power]

def writeMagnitude (index : Nat) : Text :=
  if index = 0 then "0.0"
  else
    let (digits, scale) := shortest index
    let all := Numeral.digits digits
    let leading := scale + all.length - 1
    if layout.positionalFrom ≤ leading ∧ leading ≤ layout.positionalTo then
      positional (trimZeros all) leading
    else scientific layout (trimZeros all) leading

def write : Double → Text
  | nan => "nan"
  | infinite negative => if negative then "-inf" else "inf"
  | finite negative index => if negative then '-' :: writeMagnitude index else writeMagnitude index

end EventScript.Double
