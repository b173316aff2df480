import EventScript.Proofs.Row.Grammar
import EventScript.Proofs.Script.Contribution

/-!
# Spellings of a timer

A number has many spellings: exact or already wrapped, with a sign and zeros in front, in another
base, between blanks. A timer has only the word they all stand for, and eight bytes of it.
-/

namespace EventScript.Row

open Numeral

variable {t sign front back : Text} {negative : Bool} {n base : Nat} {letter : CodePoint}

/-- Blanks, which may stand around the spelling of a number. -/
def IsMargin (t : Text) : Prop :=
  ∀ c ∈ t, c.isBlank = true

instance (t : Text) : Decidable (IsMargin t) :=
  inferInstanceAs (Decidable (∀ c ∈ t, c.isBlank = true))

/-- What is visible from end to end is kept when the blanks around it are removed. -/
theorem strip_append (inFront : IsMargin front) (behind : IsMargin back) (nonempty : t ≠ [])
    (visible : ∀ c ∈ t, 0x20 < c.val ∧ c.val < 0x7F) : (front ++ t ++ back).strip = t := by
  have kept : ∀ c ∈ t, c.isBlank = false := fun c membership =>
    CodePoint.isBlank_eq_false (visible c membership).1 (visible c membership).2
  apply Text.trim_append inFront behind nonempty
  · exact fun c first => kept c (List.mem_of_head? first)
  · exact fun c last => kept c (List.mem_of_getLast? last)

/-- A timer that is spelled by a text is the word of its number. -/
theorem timer_of_ofTimerText? {i : Int} (read : ofTimerText? t = .ok (some i)) (row : Int) :
    timer row (.text t) = .ok (Word.wrap i) := by
  simp only [timer, read]

theorem ofTimerText?_decimal (denotes : Denotes 10 t n) (allowed : sign ∈ signs negative)
    (inFront : IsMargin front) (behind : IsMargin back) :
    ofTimerText? (front ++ (sign ++ t) ++ back) = .ok (some (Word.wrap (signed negative n))) := by
  have nonempty : sign ++ t ≠ [] := List.append_ne_nil_of_right_ne_nil sign denotes.ne_nil
  have stripped := strip_append inFront behind nonempty (denotes.visible_append allowed)
  exact ofTimerText?_of_decimal stripped allowed denotes

theorem ofTimerText?_prefixed (listed : (letter, base) ∈ radixes) (denotes : Denotes base t n)
    (inFront : IsMargin front) (behind : IsMargin back) :
    ofTimerText? (front ++ (CodePoint.ofChar '0' :: letter :: t) ++ back) =
      .ok (some (n : Int)) := by
  have visible := (IsLiteral.prefixed listed denotes).visible
  have stripped := strip_append inFront behind (List.cons_ne_nil _ _) visible
  exact ofTimerText?_of_prefixed stripped listed denotes

/-! ## All spellings -/

/-- A literal of a data file is loaded as a number that stands for the same word, long or short. -/
theorem exists_integer_eq (denotes : Denotes 10 t n) :
    ∃ i, Json.integer (Json.NumberLiteral.integerText ⟨negative, t, none, none⟩) = .ok i ∧
      i ≡ signed negative n [ZMOD Word.modulus] := by
  obtain ⟨sign, allowed, literal⟩ := Json.exists_integerText_eq negative t
  rw [literal, Json.integer_eq denotes allowed]
  refine ⟨_, rfl, ?_⟩
  split
  · exact Word.wrap_modEq _
  · rfl

/-- However a number is spelled, a timer of it is the one number within 64 bits that differs from it
by a multiple of 2⁶⁴, and is stored as the eight lowest bytes of it. -/
theorem timer_of_spelling {negative : Bool} {t : Text} {n : Nat} (denotes : Denotes 10 t n) :
    ∃ k : Int,
      (Word.least ≤ k ∧ k ≤ Word.greatest ∧ k ≡ signed negative n [ZMOD 2 ^ 64]) ∧
      (∀ other, Word.least ≤ other → other ≤ Word.greatest →
        other ≡ signed negative n [ZMOD 2 ^ 64] → other = k) ∧
      (∃ i, Json.integer (Json.NumberLiteral.integerText ⟨negative, t, none, none⟩) = .ok i ∧
        ∀ row, timer row (.int i) = .ok k) ∧
      (∀ row front sign zeros back, IsMargin front → sign ∈ signs negative → IsMargin back →
        timer row (.text (front ++ (sign ++ (List.replicate zeros (CodePoint.ofChar '0') ++ t)) ++
          back)) = .ok k) ∧
      (∀ row front letter base digits m back, IsMargin front → (letter, base) ∈ radixes →
        Denotes base digits m → signed negative n = m → IsMargin back →
        timer row (.text (front ++ (CodePoint.ofChar '0' :: letter :: digits) ++ back)) = .ok k) ∧
      (∀ buffer, (Script.writeTimer k).on buffer =
        (buffer.append ((List.range 8).map fun place =>
          UInt8.ofNat ((signed negative n % 2 ^ 64).toNat / 256 ^ place)), none)) := by
  have modulus_eq : (2 ^ 64 : Int) = Word.modulus := rfl
  obtain ⟨low, high⟩ := Word.wrap_mem (signed negative n)
  refine ⟨Word.wrap (signed negative n), ⟨low, high, Word.wrap_modEq _⟩, ?_, ?_, ?_, ?_, ?_⟩
  · intro other otherLow otherHigh same
    exact Word.eq_wrap_of_modEq otherLow otherHigh same
  · obtain ⟨i, loaded, same⟩ := exists_integer_eq denotes
    refine ⟨i, loaded, ?_⟩
    intro row
    rw [timer, Word.wrap_eq_of_modEq same]
  · intro row front sign zeros back inFront allowed behind
    have read := ofTimerText?_decimal (denotes.zeros (by decide) zeros) allowed inFront behind
    rw [timer_of_ofTimerText? read, Word.wrap_wrap]
  · intro row front letter base digits m back inFront listed other same behind
    have read := ofTimerText?_prefixed listed other inFront behind
    rw [timer_of_ofTimerText? read, same]
  · intro buffer
    rw [Script.contributes_writeTimer low high buffer, Word.encode_wrap, Word.encode,
      Word.littleEndian_eq_map, modulus_eq]

theorem timer_of_spelling_beyondWord :
    Denotes 10 "18446744073709551621" (2 ^ 64 + 5) ∧
      timer 1 (.text " \t+0018446744073709551621\n") = .ok 5 ∧
      timer 1 (.text "0X10000000000000005") = .ok 5 := by
  have denotes : Denotes 10 "18446744073709551621" (2 ^ 64 + 5) :=
    ⟨by decide, [1, 8, 4, 4, 6, 7, 4, 4, 0, 7, 3, 7, 0, 9, 5, 5, 1, 6, 2, 1], by decide, by decide⟩
  have hexadecimal : Denotes 16 "10000000000000005" (2 ^ 64 + 5) :=
    ⟨by decide, [1, 0, 0, 0, 0, 0, 0, 0, 0, 0, 0, 0, 0, 0, 0, 0, 5], by decide, by decide⟩
  obtain ⟨k, -, unique, -, decimals, prefixed, -⟩ := @timer_of_spelling false _ _ denotes
  obtain rfl : 5 = k := unique 5 (by decide) (by decide) (by decide)
  refine ⟨denotes, ?_, ?_⟩
  · exact decimals 1 " \t" "+" 2 "\n" (by decide) (by decide) (by decide)
  · exact prefixed 1 [] 'X' 16 _ _ [] (List.forall_mem_nil _) (by decide) hexadecimal rfl
      (List.forall_mem_nil _)

end EventScript.Row
