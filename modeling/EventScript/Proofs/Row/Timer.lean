import EventScript.Proofs.Row.Grammar

/-!
# Timer texts

A text that spells a number holds nothing but visible ASCII, and blanks at its ends.
-/

namespace EventScript

/-- No blank is a surrogate or a byte order mark. -/
theorem CodePoint.val_le_of_isBlank {c : CodePoint} (blank : c.isBlank = true) :
    c.val ≤ 0x3000 := by
  have bound : ∀ range ∈ blankRanges, range.2 ≤ 0x3000 := by decide
  obtain ⟨range, listed, -, upper⟩ := Ranges.contains_iff.mp blank
  exact Nat.le_trans upper (bound range listed)

namespace Row

/-- A text that spells a timer has neither surrogates nor a byte order mark in it. -/
theorem val_le_of_timer {number n : Int} {t : Text} (accepted : timer number (.text t) = .ok n)
    {c : CodePoint} (membership : c ∈ t) : c.val ≤ 0x3000 := by
  cases blank : c.isBlank with
  | true => exact CodePoint.val_le_of_isBlank blank
  | false =>
    obtain ⟨m, stands, -⟩ := timer_eq_ok_iff.mp accepted
    cases stands with
    | text literal =>
      have := literal.visible c (Text.mem_trim_of_not membership blank)
      omega

theorem timer_eq_ok_of_timer {number other n : Int} {cell : Value}
    (accepted : timer number cell = .ok n) : timer other cell = .ok n :=
  timer_eq_ok_iff.mpr (timer_eq_ok_iff.mp accepted)

theorem timer_mem {number n : Int} {cell : Value} (accepted : timer number cell = .ok n) :
    Word.least ≤ n ∧ n ≤ Word.greatest := by
  obtain ⟨m, -, rfl⟩ := timer_eq_ok_iff.mp accepted
  exact Word.wrap_mem m

end Row

end EventScript
