import EventScript.Number.Numeral
import EventScript.Proofs.Text.Basic
import Mathlib.Data.List.Forall2
import Mathlib.Data.Nat.Digits.Defs
import Mathlib.Tactic.Ring

/-!
# Decimal texts

A text of digits stands for the number they are the digits of, whatever zeros are in front, and is
read as that number.
-/

namespace List.Forall₂

variable {α β : Type} {related : α → β → Prop} {xs : List α} {ys : List β}

theorem forall_mem_left {p : α → Prop} (pairwise : Forall₂ related xs ys)
    (each : ∀ x y, related x y → p x) : ∀ x ∈ xs, p x := by
  have both := pairwise.imp fun x y pair => And.intro (each x y pair) pair
  exact ((forall₂_and_left _ _).mp both).1

theorem forall_mem_right {p : β → Prop} (pairwise : Forall₂ related xs ys)
    (each : ∀ x y, related x y → p y) : ∀ y ∈ ys, p y :=
  pairwise.flip.forall_mem_left fun y x pair => each x y pair

end List.Forall₂

namespace EventScript

/-- Between the space and the delete character nothing is blank. -/
theorem CodePoint.isBlank_eq_false {c : CodePoint} (low : 0x20 < c.val) (high : c.val < 0x7F) :
    c.isBlank = false := by
  have outside : ∀ range ∈ blankRanges, range.2 ≤ 0x20 ∨ 0x7F ≤ range.1 := by decide
  rw [Bool.eq_false_iff]
  intro blank
  obtain ⟨range, listed, lower, upper⟩ := Ranges.contains_iff.mp blank
  have := outside range listed
  omega

namespace Numeral

/-- The digits of a text in a base, letters in either case. -/
abbrev HasDigits (base : Nat) : Text → List Nat → Prop :=
  List.Forall₂ fun c d => c.digitValue? = some d ∧ d < base

/-- The number of digits, the highest first. -/
def valueOf (base : Nat) (digits : List Nat) : Nat :=
  Nat.ofDigits base digits.reverse

/-- A text stands for a number in a base if it consists of its digits, zeros in front included. -/
structure Denotes (base : Nat) (t : Text) (n : Nat) : Prop where
  ne_nil : t ≠ []
  value : ∃ digits, HasDigits base t digits ∧ valueOf base digits = n

theorem valueOf_append (base : Nat) (front back : List Nat) :
    valueOf base (front ++ back) = valueOf base front * base ^ back.length + valueOf base back := by
  rw [valueOf, List.reverse_append, Nat.ofDigits_append, List.length_reverse, valueOf, valueOf]
  ring

theorem valueOf_cons (base d : Nat) (digits : List Nat) :
    valueOf base (d :: digits) = d * base ^ digits.length + valueOf base digits := by
  rw [← List.singleton_append, valueOf_append]
  simp [valueOf]

theorem valueOf_lt {base : Nat} {digits : List Nat} (two_le : 1 < base)
    (small : ∀ d ∈ digits, d < base) : valueOf base digits < base ^ digits.length := by
  rw [valueOf, ← List.length_reverse]
  exact Nat.ofDigits_lt_base_pow_length two_le fun d listed => small d (List.mem_reverse.mp listed)

variable {base n start : Nat} {t : Text} {digits : List Nat} {c : CodePoint} {d : Nat}

/-- Zeros in front change nothing. -/
theorem Denotes.zeros (denotes : Denotes base t n) (positive : 0 < base) (zeros : Nat) :
    Denotes base (List.replicate zeros (CodePoint.ofChar '0') ++ t) n := by
  induction zeros with
  | zero => exact denotes
  | succ zeros ih =>
    obtain ⟨digits, has, value⟩ := ih.value
    refine ⟨by simp [List.replicate_succ], 0 :: digits, .cons ⟨rfl, positive⟩ has, ?_⟩
    rw [valueOf_cons, Nat.zero_mul, Nat.zero_add, value]

theorem val_of_digitValue? (value : c.digitValue? = some d) :
    (c.val = d + 48 ∧ d < 10) ∨ 10 ≤ d ∧ 65 ≤ c.val ∧ c.val ≤ 122 := by
  simp only [CodePoint.digitValue?] at value
  split at value
  · cases value
    omega
  · split at value
    · cases value
      omega
    · split at value
      · cases value
        omega
      · cases value

theorem isDigit_of_digitValue? (value : c.digitValue? = some d) (small : d < 10) :
    c.isDigit = true ∧ c.decimalValue? = some d := by
  obtain ⟨same, -⟩ | ⟨large, -⟩ := val_of_digitValue? value
  · have digit : c.isDigit = true := by
      simp only [CodePoint.isDigit, Bool.and_eq_true, decide_eq_true_eq]
      omega
    refine ⟨digit, ?_⟩
    rw [CodePoint.decimalValue?, if_pos digit, same, Nat.add_sub_cancel]
  · omega

theorem Denotes.exists_digit (denotes : Denotes base t n) :
    ∀ c ∈ t, ∃ d, c.digitValue? = some d ∧ d < base := by
  obtain ⟨digits, has, -⟩ := denotes.value
  exact has.forall_mem_left fun c d digit => ⟨d, digit⟩

theorem isDigit_of_hasDigits (has : HasDigits 10 t digits) : ∀ c ∈ t, c.isDigit = true :=
  has.forall_mem_left fun _ _ digit => (isDigit_of_digitValue? digit.1 digit.2).1

theorem Denotes.isDigit (denotes : Denotes 10 t n) : ∀ c ∈ t, c.isDigit = true := by
  obtain ⟨digits, has, -⟩ := denotes.value
  exact isDigit_of_hasDigits has

/-- Digits are neither blank nor beyond ASCII. -/
theorem Denotes.visible (denotes : Denotes base t n) : ∀ c ∈ t, 0x20 < c.val ∧ c.val < 0x7F := by
  intro c membership
  obtain ⟨d, value, -⟩ := denotes.exists_digit c membership
  have range := val_of_digitValue? value
  omega

/-- A number has at most as many digits as are written of it. -/
theorem Denotes.lt_pow (denotes : Denotes base t n) (two_le : 1 < base) : n < base ^ t.length := by
  obtain ⟨digits, has, rfl⟩ := denotes.value
  rw [has.length_eq]
  apply valueOf_lt two_le
  exact has.forall_mem_right fun c d digit => digit.2

theorem exists_denotes (nonempty : t ≠ []) (decimal : ∀ c ∈ t, c.isDigit = true) :
    ∃ n, Denotes 10 t n := by
  have digits : HasDigits 10 t (t.map fun c => c.val - 48) := by
    rw [HasDigits, List.forall₂_map_right_iff, List.forall₂_same]
    intro c membership
    have range := decimal c membership
    simp only [CodePoint.isDigit, Bool.and_eq_true, decide_eq_true_eq] at range
    rw [CodePoint.digitValue?, if_pos range]
    exact ⟨rfl, by omega⟩
  exact ⟨_, nonempty, _, digits, rfl⟩

/-! ## Reading -/

theorem foldlM_next? (has : HasDigits 10 t digits) (before : Progress) :
    t.foldlM Progress.next? before = some
      ⟨before.value * 10 ^ digits.length + valueOf 10 digits, before.afterDigit || !t.isEmpty⟩ := by
  induction has generalizing before with
  | nil => simp [valueOf]
  | @cons c d rest others first _ ih =>
    have taken : before.next? c = some ⟨before.value * 10 + d, true⟩ := by
      rw [Progress.next?, (isDigit_of_digitValue? first.1 first.2).2]
    have joined : (before.value * 10 + d) * 10 ^ others.length + valueOf 10 others =
        before.value * 10 ^ (others.length + 1) + (d * 10 ^ others.length + valueOf 10 others) := by
      ring
    rw [List.foldlM_cons, taken, Option.bind_eq_bind, Option.bind_some, ih, valueOf_cons,
      List.length_cons, ← joined]
    simp

theorem Denotes.readDigits?_eq (denotes : Denotes 10 t n) : readDigits? t = some n := by
  obtain ⟨digits, has, rfl⟩ := denotes.value
  have nonempty : t.isEmpty = false := by simpa using denotes.ne_nil
  rw [readDigits?, foldlM_next? has]
  simp [nonempty]

/-- What may stand in front of the digits of a number, depending on whether it negates them. -/
def signs (negative : Bool) : List Text :=
  if negative then ["-"] else [[], "+"]

def signed (negative : Bool) (n : Nat) : Int :=
  if negative then -(n : Int) else n

variable {negative : Bool} {sign : Text}

theorem mem_signs_cases (allowed : sign ∈ signs negative) :
    sign = "-" ∧ negative = true ∨ sign = [] ∧ negative = false ∨
      sign = "+" ∧ negative = false := by
  cases negative <;> simpa [signs] using allowed

theorem not_isSign_of_isDigit (digit : c.isDigit = true) :
    ¬(c = CodePoint.ofChar '+' ∨ c = CodePoint.ofChar '-') := by
  rintro (rfl | rfl) <;> cases digit

theorem Denotes.readSigned?_eq (denotes : Denotes 10 t n) (allowed : sign ∈ signs negative) :
    readSigned? (sign ++ t) = some (signed negative n) := by
  have read := denotes.readDigits?_eq
  rcases mem_signs_cases allowed with ⟨rfl, rfl⟩ | ⟨rfl, rfl⟩ | ⟨rfl, rfl⟩
  · have front : Text.ofString "-" ++ t = CodePoint.ofChar '-' :: t := rfl
    rw [front, readSigned?, if_pos rfl, read]
    rfl
  · obtain ⟨c, rest, rfl⟩ := List.exists_cons_of_ne_nil denotes.ne_nil
    have digit := not_isSign_of_isDigit (denotes.isDigit c List.mem_cons_self)
    rw [List.nil_append, readSigned?, if_neg fun minus => digit (.inr minus),
      if_neg fun plus => digit (.inl plus), read]
    rfl
  · have front : Text.ofString "+" ++ t = CodePoint.ofChar '+' :: t := rfl
    rw [front, readSigned?, if_neg (by decide), if_pos rfl, read]
    rfl

theorem Denotes.visible_append (denotes : Denotes 10 t n) (allowed : sign ∈ signs negative) :
    ∀ c ∈ sign ++ t, 0x20 < c.val ∧ c.val < 0x7F := by
  have signVisible : ∀ c ∈ sign, 0x20 < c.val ∧ c.val < 0x7F := by
    rcases mem_signs_cases allowed with ⟨rfl, -⟩ | ⟨rfl, -⟩ | ⟨rfl, -⟩ <;> decide
  intro c membership
  rcases List.mem_append.mp membership with early | late
  · exact signVisible c early
  · exact denotes.visible c late

theorem Denotes.readUnlimited_eq (denotes : Denotes 10 t n) (allowed : sign ∈ signs negative) :
    readUnlimited (sign ++ t) = .ok (signed negative n) := by
  have margin : ∀ c ∈ sign ++ t, isMargin c = false := by
    intro c membership
    obtain ⟨low, high⟩ := denotes.visible_append allowed c membership
    have ascii : c.isAscii = true := by
      simp only [CodePoint.isAscii, decide_eq_true_eq]
      omega
    rw [isMargin, if_pos ascii]
    simp only [Bool.or_eq_false_iff, Bool.and_eq_false_iff, decide_eq_false_iff_not,
      beq_eq_false_iff_ne]
    omega
  have trimmed : (sign ++ t).trim isMargin = sign ++ t :=
    Text.trim_eq_self (List.append_ne_nil_of_right_ne_nil sign denotes.ne_nil) margin
  rw [readUnlimited, trimmed, denotes.readSigned?_eq allowed]

theorem HasDigits.countP_decimalValue? {digits : List Nat} (has : HasDigits 10 t digits) :
    t.countP (·.decimalValue?.isSome) = t.length := by
  rw [List.countP_eq_length]
  refine has.forall_mem_left ?_
  intro c d digit
  rw [(isDigit_of_digitValue? digit.1 digit.2).2]
  rfl

/-- Signs do not count for the limit on digits. -/
theorem Denotes.countP_decimalValue? (denotes : Denotes 10 t n) (allowed : sign ∈ signs negative) :
    (sign ++ t).countP (·.decimalValue?.isSome) = t.length := by
  have noDigit : sign.countP (·.decimalValue?.isSome) = 0 := by
    rcases mem_signs_cases allowed with ⟨rfl, -⟩ | ⟨rfl, -⟩ | ⟨rfl, -⟩ <;> decide
  obtain ⟨digits, has, -⟩ := denotes.value
  rw [List.countP_append, noDigit, has.countP_decimalValue?, Nat.zero_add]

theorem Denotes.read_eq (denotes : Denotes 10 t n) (allowed : sign ∈ signs negative)
    (short : t.length ≤ conversionLimit) : read (sign ++ t) = .ok (signed negative n) := by
  rw [read, denotes.countP_decimalValue? allowed, if_neg (Nat.not_lt.mpr short)]
  exact denotes.readUnlimited_eq allowed

theorem Denotes.read_eq_error (denotes : Denotes 10 t n) (allowed : sign ∈ signs negative)
    (long : conversionLimit < t.length) : read (sign ++ t) = .error (.unreadable t.length) := by
  rw [read, denotes.countP_decimalValue? allowed, if_pos long]

end Numeral

end EventScript
