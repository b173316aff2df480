import EventScript.Number.Double
import Mathlib.Algebra.Order.Field.Power
import Mathlib.Data.Nat.Cast.Field
import Mathlib.Data.Rat.Cast.Order
import Mathlib.Tactic.Ring

/-!
# The numbers of doubles

A finite double is a rational number, and it is read as an integer exactly when it is one.
-/

namespace EventScript.Double

variable {x : Double} {n : Int}

/-- The number that a double stands for. Infinities and what is not a number stand for none. -/
def value? : Double → Option ℚ
  | finite negative index =>
    let magnitude : ℚ := significand index * 2 ^ exponent index
    some (if negative then -magnitude else magnitude)
  | _ => none

theorem ratio_snd_pos (index : Nat) : 0 < (ratio index).2 := by
  rw [ratio, Nat.one_shiftLeft]
  exact Nat.two_pow_pos _

theorem magnitude_eq_div (index : Nat) :
    (significand index * 2 ^ exponent index : ℚ) = (ratio index).1 / (ratio index).2 := by
  have power : (2 : ℚ) ^ exponent index =
      2 ^ (exponent index).toNat / 2 ^ (-exponent index).toNat := by
    rw [← zpow_natCast, ← zpow_natCast, ← zpow_sub₀ two_ne_zero, Int.toNat_sub_toNat_neg]
  rw [power, ratio, Nat.shiftLeft_eq, Nat.one_shiftLeft, Nat.cast_mul, Nat.cast_pow, Nat.cast_pow,
    Nat.cast_ofNat, mul_div_assoc]

/-- A quotient of natural numbers is an integer if the division leaves nothing. -/
theorem div_eq_intCast_iff {numerator denominator : Nat} (positive : 0 < denominator) :
    (numerator / denominator : ℚ) = n ↔
      numerator % denominator = 0 ∧ ((numerator / denominator : Nat) : Int) = n := by
  have nonzero : (denominator : ℚ) ≠ 0 := by exact_mod_cast positive.ne'
  constructor
  · intro whole
    have product : (numerator : Int) = n * denominator := by
      exact_mod_cast (div_eq_iff nonzero).mp whole
    have divides : denominator ∣ numerator := by
      rw [← Int.natCast_dvd_natCast, product]
      exact Int.dvd_mul_left ..
    refine ⟨Nat.mod_eq_zero_of_dvd divides, ?_⟩
    rw [Int.natCast_ediv, product, Int.mul_ediv_cancel n (by omega)]
  · rintro ⟨even, rfl⟩
    rw [Int.cast_natCast, Nat.cast_div (Nat.dvd_of_mod_eq_zero even) nonzero]

/-- A double is read as an integer if that is the number it stands for. -/
theorem toInt?_eq_some_iff : x.toInt? = some n ↔ x.value? = some (n : ℚ) := by
  cases x with
  | nan | infinite negative => simp [toInt?, value?]
  | finite negative index =>
    have whole (m : Int) := @div_eq_intCast_iff m (ratio index).1 _ (ratio_snd_pos index)
    simp only [toInt?, value?, magnitude_eq_div, Option.ite_none_right_eq_some, Option.some.injEq]
    cases negative with
    | false =>
      simp only [Bool.false_eq_true, if_false]
      exact (whole n).symm
    | true =>
      simp only [if_true, neg_eq_iff_eq_neg]
      rw [← Int.cast_neg]
      exact (whole (-n)).symm

end EventScript.Double
