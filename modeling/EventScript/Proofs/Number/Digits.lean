import EventScript.Proofs.Number.Decimal
import Mathlib.Data.Nat.Digits.Lemmas

/-!
# Written digits

Of all texts that stand for a number, only one has no zero in front of other digits. That is the one
that is written.
-/

namespace EventScript.Numeral

variable {c : CodePoint} {d n : Nat} {t : Text} {digits : List Nat}

theorem digitValue?_digit (small : d < 10) : (digit d).digitValue? = some d := by
  have each : ∀ d < 10, (digit d).digitValue? = some d := by decide
  exact each d small

theorem digit_eq_of_digitValue? (value : c.digitValue? = some d) (small : d < 10) :
    digit d = c := by
  have range := val_of_digitValue? value
  have written := val_of_digitValue? (digitValue?_digit small)
  apply CodePoint.eq_of_val_eq
  omega

theorem hasDigits_map_digit (small : ∀ d ∈ digits, d < 10) :
    HasDigits 10 (digits.map digit) digits := by
  rw [HasDigits, List.forall₂_map_left_iff, List.forall₂_same]
  exact fun d listed => ⟨digitValue?_digit (small d listed), small d listed⟩

theorem map_digit_eq (has : HasDigits 10 t digits) : digits.map digit = t := by
  induction has with
  | nil => rfl
  | cons first _ ih => rw [List.map_cons, ih, digit_eq_of_digitValue? first.1 first.2]

/-- Every digit is put in front of the lower ones. -/
theorem digitsOnto_eq (positive : 0 < n) (rest : Text) :
    digitsOnto n rest = (Nat.digits 10 n).reverse.map digit ++ rest := by
  induction n using Nat.strong_induction_on generalizing rest with
  | _ n ih =>
    rw [digitsOnto]
    split
    · next small =>
      rw [Nat.digits_of_lt 10 n (Nat.ne_of_gt positive) small]
      rfl
    · next large =>
      have fewer : n / 10 < n := Nat.div_lt_self positive (by decide)
      have more : 0 < n / 10 := Nat.div_pos (Nat.le_of_not_lt large) (by decide)
      have last : digit (n % 10) = digit n := by rw [digit, Nat.mod_mod, digit]
      rw [ih _ fewer more, Nat.digits_def' (by decide) positive, List.reverse_cons, List.map_append,
        List.append_assoc, List.map_singleton, last]
      rfl

theorem digits_zero : Numeral.digits 0 = "0" := by
  rw [Numeral.digits, digitsOnto]
  rfl

theorem digits_eq_map (positive : 0 < n) :
    Numeral.digits n = (Nat.digits 10 n).reverse.map digit := by
  rw [Numeral.digits, digitsOnto_eq positive, List.append_nil]

/-! ## The one text of a number -/

/-- No zero stands in front of other digits. -/
def IsPlain (t : Text) : Prop :=
  t.head? = some (CodePoint.ofChar '0') → t = "0"

theorem denotes_digits (n : Nat) : Denotes 10 (Numeral.digits n) n := by
  rcases Nat.eq_zero_or_pos n with rfl | positive
  · rw [digits_zero]
    exact ⟨nofun, [0], .cons ⟨rfl, Nat.zero_lt_succ 9⟩ .nil, rfl⟩
  · have nonempty : Nat.digits 10 n ≠ [] :=
      Nat.digits_ne_nil_iff_ne_zero.mpr (Nat.ne_of_gt positive)
    rw [digits_eq_map positive]
    refine ⟨by simpa using nonempty, _, hasDigits_map_digit ?_, ?_⟩
    · intro d listed
      exact Nat.digits_lt_base (by decide) (List.mem_reverse.mp listed)
    · rw [valueOf, List.reverse_reverse, Nat.ofDigits_digits]

theorem Denotes.digits_eq (denotes : Denotes 10 t n) (plain : IsPlain t) :
    Numeral.digits n = t := by
  obtain ⟨digits, has, rfl⟩ := denotes.value
  cases has with
  | nil => exact absurd rfl denotes.ne_nil
  | @cons c d rest others first has =>
    by_cases zero : d = 0
    -- A zero in front stands alone, so that no digits are left.
    · have front : c = CodePoint.ofChar '0' := by
        rw [← digit_eq_of_digitValue? first.1 first.2, zero]
        rfl
      have whole := plain (congrArg some front)
      have alone : rest = [] := (List.cons.inj whole).2
      subst alone
      cases has
      rw [whole, zero]
      exact digits_zero
    · have positive : 0 < valueOf 10 (d :: others) := by
        rw [valueOf_cons]
        apply Nat.add_pos_left
        exact Nat.mul_pos (Nat.pos_of_ne_zero zero) (Nat.pow_pos (Nat.zero_lt_succ 9))
      have whole : HasDigits 10 (c :: rest) (d :: others) := .cons first has
      have small : ∀ e ∈ d :: others, e < 10 := whole.forall_mem_right fun c e digit => digit.2
      rw [digits_eq_map positive, valueOf, Nat.digits_ofDigits, List.reverse_reverse,
        map_digit_eq whole]
      · decide
      · exact fun e listed => small e (List.mem_reverse.mp listed)
      · intro nonempty
        rw [List.getLast_reverse]
        exact zero

end EventScript.Numeral
