import Mathlib.Data.List.Forall2

/-!
# Results of steps

Steps in a row succeed only if each does, and fail as the first that fails.
-/

namespace Except

variable {ε α β : Type} {first : Except ε α} {next : α → Except ε β}

theorem exists_of_bind_eq_ok {b : β} (both : first >>= next = .ok b) :
    ∃ a, first = .ok a ∧ next a = .ok b := by
  cases first with
  | error failure => cases both
  | ok a => exact ⟨a, rfl, both⟩

theorem bind_eq_error_iff {failure : ε} :
    first >>= next = .error failure ↔
      first = .error failure ∨ ∃ a, first = .ok a ∧ next a = .error failure := by
  cases first with
  | error early => simp [bind, Except.bind]
  | ok a => simp [bind, Except.bind]

/-- Where the last step fails, nothing succeeds. -/
theorem bind_error_ne_ok (first : Except ε α) (failure : ε) (b : β) :
    (first.bind fun _ => .error failure) ≠ .ok b := by
  cases first <;> exact nofun

theorem eq_ok_of_toOption {result : Except ε α} {a : α} (given : result.toOption = some a) :
    result = .ok a := by
  cases result with
  | error failure => cases given
  | ok b => exact congrArg Except.ok (Option.some.inj given)

theorem eq_ok_of_mapError {δ : Type} {result : Except ε α} {report : ε → δ} {a : α}
    (given : result.mapError report = .ok a) : result = .ok a := by
  cases result with
  | error fault => cases given
  | ok b => exact congrArg Except.ok (Except.ok.inj given)

/-- A list of steps succeeds if each of them does. -/
theorem mapM_eq_ok_iff {f : α → Except ε β} {xs : List α} {ys : List β} :
    xs.mapM f = .ok ys ↔ List.Forall₂ (fun x y => f x = .ok y) xs ys := by
  induction xs generalizing ys with
  | nil => simp [pure, Except.pure, eq_comm]
  | cons first rest ih =>
    rw [List.mapM_cons]
    constructor
    · intro mapped
      obtain ⟨y, given, mapped⟩ := exists_of_bind_eq_ok mapped
      obtain ⟨others, mappedRest, built⟩ := exists_of_bind_eq_ok mapped
      cases built
      exact .cons given (ih.mp mappedRest)
    · intro pairs
      cases pairs with
      | cons given others =>
        rw [given, ih.mpr others]
        rfl

/-- What a list of steps fails with is what its first failing step fails with. -/
theorem mapM_eq_error_iff {f : α → Except ε β} {xs : List α} {failure : ε} :
    xs.mapM f = .error failure ↔ ∃ before x after, xs = before ++ x :: after ∧
      (∀ earlier ∈ before, ∃ b, f earlier = .ok b) ∧ f x = .error failure := by
  induction xs with
  | nil => simp [pure, Except.pure]
  | cons first rest ih =>
    simp only [List.mapM_cons, bind_eq_error_iff, ih, pure, Except.pure, reduceCtorEq, and_false,
      exists_false, or_false]
    constructor
    · rintro (failed | ⟨b, given, before, x, after, rfl, good, failed⟩)
      · exact ⟨[], first, rest, rfl, List.forall_mem_nil _, failed⟩
      · have both := List.forall_mem_cons.mpr ⟨⟨b, given⟩, good⟩
        exact ⟨first :: before, x, after, rfl, both, failed⟩
    · rintro ⟨before, x, after, split, good, failed⟩
      cases before with
      | nil =>
        cases split
        exact .inl failed
      | cons earlier before =>
        cases split
        obtain ⟨⟨b, given⟩, others⟩ := List.forall_mem_cons.mp good
        exact .inr ⟨b, given, before, x, after, rfl, others, failed⟩

end Except
