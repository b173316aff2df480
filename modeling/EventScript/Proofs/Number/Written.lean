import EventScript.Number.Double.Shortest
import EventScript.Proofs.Text.Utf8
import Mathlib.Algebra.Group.Nat.Defs

/-!
# Written numbers

A number is written in visible ASCII, whether it is an integer or a double and however it is laid
out. Numbers of few digits can be written, and all the integers among the doubles are such numbers.
-/

namespace EventScript

namespace Text

variable {t u : Text}

/-- Nothing but ASCII, of which no blanks and no controls. -/
def IsVisible (t : Text) : Prop :=
  ∀ c ∈ t, 0x20 < c.val ∧ c.val < 0x7F

instance (t : Text) : Decidable t.IsVisible :=
  inferInstanceAs (Decidable (∀ c ∈ t, 0x20 < c.val ∧ c.val < 0x7F))

@[simp] theorem isVisible_cons {c : CodePoint} :
    IsVisible (c :: t) ↔ (0x20 < c.val ∧ c.val < 0x7F) ∧ t.IsVisible :=
  List.forall_mem_cons

@[simp] theorem isVisible_concat {pieces : List Text} :
    (concat pieces).IsVisible ↔ ∀ piece ∈ pieces, piece.IsVisible := by
  simp only [concat, IsVisible, List.forall_mem_flatten]

@[simp] theorem isVisible_replicate (count : Nat) :
    IsVisible (List.replicate count (CodePoint.ofChar '0')) := by
  intro c membership
  rw [List.eq_of_mem_replicate membership]
  decide

namespace IsVisible

theorem of_subset (part : t ⊆ u) (visible : u.IsVisible) : t.IsVisible :=
  fun c membership => visible c (part membership)

theorem hasNull_eq (visible : t.IsVisible) : t.hasNull = false := by
  rw [hasNull_eq_false_iff]
  intro c membership
  have := visible c membership
  omega

theorem hasSurrogate_eq (visible : t.IsVisible) : t.hasSurrogate = false := by
  rw [hasSurrogate_eq_false_iff]
  intro c membership
  have := visible c membership
  simp only [CodePoint.isSurrogate, Bool.and_eq_false_iff, decide_eq_false_iff_not]
  omega

end IsVisible

end Text

namespace Numeral

theorem digit_visible (d : Nat) : 0x20 < (digit d).val ∧ (digit d).val < 0x7F := by
  have each : ∀ d < 10, 0x20 < (CodePoint.hexDigit d).val ∧ (CodePoint.hexDigit d).val < 0x7F := by
    decide
  exact each _ (Nat.mod_lt d (by decide))

theorem isVisible_digitsOnto {rest : Text} (visible : rest.IsVisible) (n : Nat) :
    (digitsOnto n rest).IsVisible := by
  have longer : Text.IsVisible (digit n :: rest) :=
    Text.isVisible_cons.mpr ⟨digit_visible n, visible⟩
  rw [digitsOnto]
  split
  · exact longer
  · exact isVisible_digitsOnto longer (n / 10)

@[simp] theorem isVisible_digits (n : Nat) : (digits n).IsVisible :=
  isVisible_digitsOnto (List.forall_mem_nil _) n

@[simp] theorem isVisible_write (n : Int) : (write n).IsVisible := by
  unfold write
  split
  · exact Text.isVisible_cons.mpr ⟨by decide, isVisible_digits _⟩
  · exact isVisible_digits _

end Numeral

namespace Double

theorem trimZeros_subset (digits : Text) : trimZeros digits ⊆ digits := by
  intro c membership
  exact List.mem_reverse.mp (List.dropWhile_subset _ (List.mem_reverse.mp membership))

variable {digits : Text}

theorem isVisible_positional (visible : digits.IsVisible) (leading : Int) :
    (positional digits leading).IsVisible := by
  have front (count : Nat) : Text.IsVisible (digits.take count) :=
    visible.of_subset (List.take_subset _ _)
  have back (count : Nat) : Text.IsVisible (digits.drop count) :=
    visible.of_subset (List.drop_subset _ _)
  have fraction (count : Nat) :
      Text.IsVisible (if digits.drop count = [] then "0" else digits.drop count) := by
    split
    · decide
    · exact back count
  unfold positional
  split
  · simp only [Text.isVisible_concat, List.forall_mem_cons, Text.isVisible_replicate, visible]
    decide
  · simp only [Text.isVisible_concat, List.forall_mem_cons, Text.isVisible_replicate, front,
      fraction]
    decide

theorem isVisible_scientific (visible : digits.IsVisible) (layout : Layout) (leading : Int) :
    (scientific layout digits leading).IsVisible := by
  have first : Text.IsVisible (digits.take 1) := visible.of_subset (List.take_subset _ _)
  have fraction : Text.IsVisible (if digits.drop 1 = [] then []
      else CodePoint.ofChar '.' :: digits.drop 1) := by
    split
    · decide
    · exact Text.isVisible_cons.mpr ⟨by decide, visible.of_subset (List.drop_subset _ _)⟩
  have sign : Text.IsVisible (if leading < 0 then "-" else "+") := by
    split <;> decide
  simp only [scientific, Text.isVisible_concat, List.forall_mem_cons, Text.isVisible_replicate,
    first, fraction, sign, Numeral.isVisible_digits]
  decide

theorem isVisible_writeMagnitude (index : Nat) : (writeMagnitude index).IsVisible := by
  have digits (n : Nat) : (trimZeros (Numeral.digits n)).IsVisible :=
    (Numeral.isVisible_digits n).of_subset (trimZeros_subset _)
  unfold writeMagnitude
  split
  · decide
  · simp only
    split
    · exact isVisible_positional (digits _) _
    · exact isVisible_scientific (digits _) _ _

theorem isVisible_write (x : Double) : x.write.IsVisible := by
  cases x with
  | nan => decide
  | infinite negative => cases negative <;> decide
  | finite negative index =>
    have magnitude := isVisible_writeMagnitude index
    cases negative with
    | false => exact magnitude
    | true => exact Text.isVisible_cons.mpr ⟨by decide, magnitude⟩

end Double

/-! ## Numbers of few digits -/

/-- A number of few digits, in binary or decimal, can be written. -/
theorem Numeral.isWritable_of_lt_pow {n : Int} {base digits : Nat} (most : base ≤ 10)
    (few : digits ≤ conversionLimit) (small : n.natAbs < base ^ digits) :
    isWritable n = true := by
  have bound {many : Nat} (few : digits ≤ many) : base ^ digits ≤ Nat.pow 10 many :=
    Nat.le_trans (Nat.pow_le_pow_left most digits) (Nat.pow_le_pow_right (by decide) few)
  rw [isWritable, decide_eq_true_eq]
  exact Nat.lt_of_lt_of_le small (bound few)

theorem Numeral.length_digitsOnto_le {n places : Nat} (positive : 0 < places)
    (small : n < 10 ^ places) (rest : Text) :
    (digitsOnto n rest).length ≤ places + rest.length := by
  induction places generalizing n rest with
  | zero => contradiction
  | succ places ih =>
    rw [digitsOnto]
    split
    · rw [List.length_cons]
      omega
    · next large =>
      have fewer : n / 10 < 10 ^ places := by
        rw [Nat.pow_succ] at small
        omega
      have more : 0 < places := by
        apply Nat.pos_of_ne_zero
        rintro rfl
        omega
      have shorter := ih more fewer (digit n :: rest)
      rw [List.length_cons] at shorter
      omega

/-- A number has as many digits as its size needs, and a sign only below zero. -/
theorem Numeral.length_write_le {n : Int} {places : Nat} (positive : 0 < places)
    (small : n.natAbs < 10 ^ places) :
    (write n).length ≤ places + (if n < 0 then 1 else 0) := by
  have digits : (digits n.natAbs).length ≤ places := length_digitsOnto_le positive small []
  unfold write
  split
  · exact Nat.succ_le_succ digits
  · exact digits

namespace Double

theorem significand_lt (index : Nat) : significand index < 2 ^ 53 := by
  have size : groupSize = 2 ^ 52 := rfl
  have rest : index % groupSize < groupSize := Nat.mod_lt index (by decide)
  unfold significand
  split <;> omega

theorem toNat_exponent_le {index : Nat} (bounded : index < 2047 * groupSize) :
    (exponent index).toNat ≤ 971 := by
  have group : index / groupSize < 2047 := Nat.div_lt_of_lt_mul (by rwa [Nat.mul_comm])
  unfold exponent
  split <;> omega

/-- The integers among the doubles have at most 1024 binary digits. -/
theorem exists_natAbs_lt_of_toInt? {x : Double} {n : Int} (whole : x.toInt? = some n) :
    ∃ bits ≤ 1024, n.natAbs < 2 ^ bits := by
  cases x with
  | nan => cases whole
  | infinite negative => cases whole
  | finite negative index =>
    simp only [toInt?] at whole
    split at whole
    · cases whole
      have few := toNat_exponent_le index.isLt
      refine ⟨53 + (exponent index).toNat, by omega, ?_⟩
      have magnitude :
          (ratio index).1 / (ratio index).2 < 2 ^ (53 + (exponent index).toNat) := by
        calc (ratio index).1 / (ratio index).2
            ≤ significand index <<< (exponent index).toNat := Nat.div_le_self _ _
          _ = significand index * 2 ^ (exponent index).toNat := Nat.shiftLeft_eq _ _
          _ < 2 ^ 53 * 2 ^ (exponent index).toNat :=
              Nat.mul_lt_mul_of_pos_right (significand_lt index) (Nat.two_pow_pos _)
          _ = 2 ^ (53 + (exponent index).toNat) := (Nat.pow_add 2 53 _).symm
      cases negative with
      | true =>
        rw [if_pos rfl, Int.natAbs_neg, Int.natAbs_natCast]
        exact magnitude
      | false => exact magnitude
    · cases whole

theorem isWritable_of_toInt? {x : Double} {n : Int} (whole : x.toInt? = some n) :
    Numeral.isWritable n = true := by
  obtain ⟨bits, few, small⟩ := exists_natAbs_lt_of_toInt? whole
  have limited : bits ≤ Numeral.conversionLimit := Nat.le_trans few (by decide)
  exact Numeral.isWritable_of_lt_pow (by decide) limited small

end Double

end EventScript
