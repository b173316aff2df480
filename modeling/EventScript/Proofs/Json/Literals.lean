import EventScript.Proofs.Json.Integers
import EventScript.Proofs.Number.Digits
import Mathlib.Data.List.TakeWhile

/-!
# Literals of integers

The scanner takes a number for an integer if it is spelled with digits alone, none of them a zero in
front of others. Such a literal is a single token, of the integer that is loaded from it.
-/

namespace EventScript.Json

open Numeral

/-- An integer as a JSON text spells it: digits, with no zero in front of others, and behind a minus
if it is negated. -/
inductive SpellsInteger : Text → Int → Prop
  | positive {t : Text} {m : Nat} (denotes : Denotes 10 t m) (plain : IsPlain t) :
    SpellsInteger t m
  | negative {t : Text} {m : Nat} (denotes : Denotes 10 t m) (plain : IsPlain t) :
    SpellsInteger (CodePoint.ofChar '-' :: t) (-m)

variable {t literal : Text} {m : Nat} {i n : Int}

/-- An integer is as long as its literal. -/
theorem NumberLiteral.length_eq (negative : Bool) (t : Text) :
    NumberLiteral.length ⟨negative, t, none, none⟩ =
      (NumberLiteral.integerText ⟨negative, t, none, none⟩).length := by
  cases negative with
  | false => exact Nat.zero_add _
  | true => exact Nat.add_comm 1 t.length

theorem scanWhole?_eq (denotes : Denotes 10 t m) (plain : IsPlain t) :
    NumberLiteral.scanWhole? t = some (t, []) := by
  have digits := denotes.isDigit
  cases t with
  | nil => exact absurd rfl denotes.ne_nil
  | cons c rest =>
    rw [List.forall_mem_cons] at digits
    rw [NumberLiteral.scanWhole?]
    split
    · next zero =>
      obtain rfl : rest = [] := (List.cons.inj (plain (congrArg some zero))).2
      rfl
    · rw [if_pos digits.1, List.takeWhile_eq_self_iff.mpr digits.2,
        List.dropWhile_eq_nil_iff.mpr digits.2]

theorem find?_words_eq_none (numeric : ∀ c ∈ literal, c.isDigit = true ∨ c = CodePoint.ofChar '-') :
    (words.find? fun (word, _) => word.isPrefixOf literal) = none := by
  have lettered : ∀ entry ∈ words, ∃ c ∈ entry.1,
      ¬(c.isDigit = true ∨ c = CodePoint.ofChar '-') := by decide
  rw [List.find?_eq_none]
  intro entry listed front
  obtain ⟨c, held, letter⟩ := lettered entry listed
  exact letter (numeric c ((List.isPrefixOf_iff_prefix.mp front).subset held))

namespace SpellsInteger

theorem ne_nil (spells : SpellsInteger literal i) : literal ≠ [] := by
  cases spells with
  | positive denotes plain => exact denotes.ne_nil
  | negative denotes plain => exact List.cons_ne_nil _ _

theorem numeric (spells : SpellsInteger literal i) :
    ∀ c ∈ literal, c.isDigit = true ∨ c = CodePoint.ofChar '-' := by
  cases spells with
  | positive denotes plain => exact fun c listed => .inl (denotes.isDigit c listed)
  | negative denotes plain =>
    exact List.forall_mem_cons.mpr ⟨.inr rfl, fun c listed => .inl (denotes.isDigit c listed)⟩

/-- An integer is exact if its literal is short, and otherwise the word of what is spelled. -/
theorem integer_eq (spells : SpellsInteger literal i) :
    integer literal = .ok (if exactLimit < literal.length then Word.wrap i else i) := by
  cases spells with
  | positive denotes plain =>
    have allowed : [] ∈ signs false := by simp [signs]
    exact Json.integer_eq denotes allowed
  | negative denotes plain =>
    have allowed : Text.ofString "-" ∈ signs true := by simp [signs]
    exact Json.integer_eq denotes allowed

theorem isLoaded (spells : SpellsInteger literal i) (loaded : integer literal = .ok n) :
    IsLoaded n := by
  cases spells with
  | positive denotes plain => exact ⟨false, _, _, denotes, loaded⟩
  | negative denotes plain => exact ⟨true, _, _, denotes, loaded⟩

/-- The literal is scanned as a whole, and nothing of it is a fraction or an exponent. -/
theorem exists_scan?_eq (spells : SpellsInteger literal i) :
    ∃ found, NumberLiteral.scan? literal = some found ∧ found.fraction = none ∧
      found.exponent = none ∧ found.integerText = literal ∧ found.length = literal.length := by
  cases spells with
  | positive denotes plain =>
    have unsigned : (literal.head? == some (CodePoint.ofChar '-')) = false := by
      rw [beq_eq_false_iff_ne]
      intro minus
      exact not_isSign_of_isDigit (denotes.isDigit _ (List.mem_of_head? minus)) (.inr rfl)
    refine ⟨⟨false, literal, none, none⟩, ?_, rfl, rfl, rfl, NumberLiteral.length_eq false literal⟩
    simp only [NumberLiteral.scan?, unsigned, Bool.false_eq_true, if_false,
      scanWhole?_eq denotes plain]
    rfl
  | @negative t _ denotes plain =>
    refine ⟨⟨true, t, none, none⟩, ?_, rfl, rfl, rfl, NumberLiteral.length_eq true t⟩
    simp only [NumberLiteral.scan?, if_true, List.head?_cons, BEq.rfl, List.drop_one,
      List.tail_cons, scanWhole?_eq denotes plain]
    rfl

theorem scanToken_eq {c : CodePoint} {rest : Text} (spells : SpellsInteger (c :: rest) i)
    (loaded : integer (c :: rest) = .ok n) (position : Nat) :
    scanToken position c rest = (.scalar (.int n), rest.length + 1) := by
  obtain ⟨found, scanned, noFraction, noExponent, same, length⟩ := spells.exists_scan?_eq
  have made : found.toValue = .ok (.int n) := by
    rw [NumberLiteral.toValue, noFraction, noExponent, same, loaded]
  have front := spells.numeric c List.mem_cons_self
  unfold scanToken
  split_ifs
  iterate 7
    · next mark =>
      rw [mark] at front
      exact absurd front (by decide)
  · rw [find?_words_eq_none spells.numeric, scanned]
    simp only [made, length, List.length_cons]

/-- A literal is a single token, of the integer that is loaded from it. -/
theorem tokens_eq (spells : SpellsInteger literal i) (loaded : integer literal = .ok n) :
    tokens literal = [⟨0, .scalar (.int n)⟩] := by
  obtain ⟨c, rest, rfl⟩ := List.exists_cons_of_ne_nil spells.ne_nil
  have front := spells.numeric c List.mem_cons_self
  have visible : ¬isSpace c = true := by
    simp only [isSpace, Bool.or_eq_true, decide_eq_true_eq, or_assoc]
    rintro (rfl | rfl | rfl | rfl) <;> exact absurd front (by decide)
  rw [tokens, tokensFrom, if_neg visible, spells.scanToken_eq loaded]
  simp [Token.isBroken, tokensFrom]

end SpellsInteger

end EventScript.Json
