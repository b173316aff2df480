import EventScript.Proofs.Json.Embedding
import EventScript.Proofs.Json.Literals
import EventScript.Proofs.Row.Rendering

/-!
# Integers in text columns

An integer of a data file keeps its digits in a text column as long as its literal is short. Of a
longer one the digits of its word are stored. Either way a minus comes first or nothing does, and
never a minus before a zero.
-/

namespace EventScript

open Numeral

variable {t literal : Text} {i n : Int}

/-- ASCII digits, at least one, behind a minus or nothing. -/
def Text.IsNumeral (t : Text) : Prop :=
  ∃ sign ∈ [[], Text.ofString "-"], ∃ digits, t = sign ++ digits ∧ digits ≠ [] ∧
    ∀ c ∈ digits, c.isDigit = true

namespace Numeral

theorem isNumeral_write (n : Int) : (write n).IsNumeral := by
  have denotes := denotes_digits n.natAbs
  unfold write
  split
  · exact ⟨"-", by simp, _, rfl, denotes.ne_nil, denotes.isDigit⟩
  · exact ⟨[], by simp, _, rfl, denotes.ne_nil, denotes.isDigit⟩

theorem digits_injective : Function.Injective digits := by
  intro m n same
  have read := (denotes_digits m).readDigits?_eq
  rw [same, (denotes_digits n).readDigits?_eq] at read
  exact (Option.some.inj read).symm

theorem write_natCast (m : Nat) : write m = digits m := by
  rw [write, if_neg (Int.not_lt.mpr (Int.natCast_nonneg m)), Int.natAbs_natCast]

theorem write_neg_natCast {m : Nat} (positive : m ≠ 0) :
    write (-(m : Int)) = CodePoint.ofChar '-' :: digits m := by
  rw [write, if_pos (by omega), Int.natAbs_neg, Int.natAbs_natCast]

end Numeral

/-- Written out, an integer has the characters that spelled it, unless these are a zero with a
minus. -/
theorem Json.SpellsInteger.write_eq (spells : SpellsInteger literal i) :
    write i = if literal = "-0" then Text.ofString "0" else literal := by
  cases spells with
  | @positive _ m denotes plain =>
    have unsigned : literal ≠ "-0" := by
      rintro rfl
      exact absurd (denotes.isDigit (CodePoint.ofChar '-') List.mem_cons_self) (by decide)
    rw [if_neg unsigned, write_natCast, denotes.digits_eq plain]
  | @negative t m denotes plain =>
    obtain rfl : digits m = t := denotes.digits_eq plain
    by_cases zero : m = 0
    · rw [zero, digits_zero]
      exact digits_zero
    · have other : CodePoint.ofChar '-' :: digits m ≠ "-0" := by
        intro same
        have none : digits m = digits 0 := (List.cons.inj same).2.trans digits_zero.symm
        exact zero (digits_injective none)
      rw [if_neg other, write_neg_natCast zero]

namespace Row

/-- An integer that can be written has no nulls to be refused for. -/
theorem text_int (writable : isWritable n = true) (row : Int) (column : Text) :
    text row column (.int n) = .ok (write n) := by
  have noNull := (isVisible_write n).hasNull_eq
  rw [text, spell, if_pos writable]
  simp only [noNull]
  rfl

open Json in
/-- Wherever the literal of an integer stands in a data file, a text column has its characters,
except for the minus of a zero. For a literal that is too long to be loaded exactly it has the
decimal of the word. -/
theorem text_of_spellsInteger (spells : SpellsInteger literal i) :
    ∃ n field, integer literal = .ok n ∧
      (∀ levels mark, endsToken mark = true → ∀ outer,
        ReadsBefore levels mark literal ⟨outer, .value⟩ (Machine.deliver outer (.int n))) ∧
      (∀ row column, text row column (.int n) = .ok field) ∧
      (literal.length ≤ 4000 → field = if literal = "-0" then Text.ofString "0" else literal) ∧
      (4000 < literal.length → field = write (Word.wrap i)) ∧ field.IsNumeral := by
  have loaded := spells.integer_eq
  have stored := text_int (spells.isLoaded loaded).isWritable
  refine ⟨_, _, loaded, ?_, stored, ?_, ?_, isNumeral_write _⟩
  · intro levels mark ends outer
    apply readsBefore_of_run ends
    rw [spells.tokens_eq loaded]
    rfl
  · intro short
    have exact : ¬exactLimit < literal.length := Nat.not_lt_of_le short
    rw [if_neg exact]
    exact spells.write_eq
  · intro long
    have wrapped : exactLimit < literal.length := long
    rw [if_pos wrapped]

theorem text_of_spellsInteger_negativeZero :
    Json.SpellsInteger "-0" 0 ∧
      ∃ n, Json.integer "-0" = .ok n ∧ ∀ row column, text row column (.int n) = .ok "0" := by
  have denotes : Denotes 10 "0" 0 := ⟨nofun, [0], by decide, rfl⟩
  have spells : Json.SpellsInteger "-0" 0 := .negative denotes fun _ => rfl
  obtain ⟨n, field, loaded, -, stored, short, -⟩ := text_of_spellsInteger spells
  obtain rfl := short (by decide)
  exact ⟨spells, n, loaded, stored⟩

end Row

end EventScript
