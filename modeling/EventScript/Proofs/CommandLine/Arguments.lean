import EventScript.CommandLine.Arguments
import EventScript.Proofs.Except

/-!
# Flags of a request

A request has a wish exactly if a flag for it stands somewhere among the arguments, alone or sharing
a dash with others. Operands are taken without losing a flag.
-/

namespace EventScript.CommandLine

/-- Among the readings of the arguments is a use of this flag. -/
def Gives (readings : List Reading) (flag : Flag) : Prop :=
  ∃ use flags, .flag use ∈ readings ∧
    cluster use.flag use.spelling use.attached = .ok flags ∧ flag ∈ flags

/-- The flag stands among the arguments. -/
def IsGiven (arguments : List Text) (flag : Flag) : Prop :=
  ∃ readings, readAll arguments = .ok readings ∧ Gives readings flag

variable {readings rest : List Reading} {draft after : Draft} {flag : Flag} {flags : List Flag}
  {request : Request}

theorem gives_cons_iff {use : Use}
    (grouped : cluster use.flag use.spelling use.attached = .ok flags) :
    Gives (.flag use :: readings) flag ↔ flag ∈ flags ∨ Gives readings flag := by
  constructor
  · rintro ⟨other, members, listed, grouped', membership⟩
    rcases List.mem_cons.mp listed with same | later
    · cases same
      rw [grouped] at grouped'
      cases grouped'
      exact .inl membership
    · exact .inr ⟨other, members, later, grouped', membership⟩
  · rintro (membership | ⟨other, members, later, grouped', membership⟩)
    · exact ⟨use, flags, List.mem_cons_self, grouped, membership⟩
    · exact ⟨other, members, List.mem_cons_of_mem _ later, grouped', membership⟩

theorem gives_congr (same : ∀ use, .flag use ∈ readings ↔ .flag use ∈ rest) :
    Gives readings flag ↔ Gives rest flag := by
  simp only [Gives, same]

theorem mem_dropSeparator_iff {use : Use} :
    .flag use ∈ dropSeparator readings ↔ .flag use ∈ readings := by
  unfold dropSeparator
  split
  · simp
  · rfl

theorem mem_takeOutput_iff {use : Use} :
    .flag use ∈ (takeOutput readings).2 ↔ .flag use ∈ readings := by
  unfold takeOutput
  split
  · simp [mem_dropSeparator_iff]
  · rfl

theorem gives_takeOperands? {operands : Text × Option Text}
    (taken : takeOperands? readings = some (operands, rest)) :
    Gives readings flag ↔ Gives rest flag := by
  apply gives_congr
  intro use
  unfold takeOperands? at taken
  split at taken
  · next source others first =>
    cases taken
    rw [mem_takeOutput_iff, mem_dropSeparator_iff, ← mem_dropSeparator_iff, first]
    simp
  · cases taken

theorem overwrite_apply (applied : draft.apply flags = .inl after) :
    after.overwrite = true ↔ draft.overwrite = true ∨ .yes ∈ flags := by
  induction flags generalizing draft with
  | nil =>
    cases applied
    simp
  | cons flag flags ih =>
    cases flag with
    | help => cases applied
    | version => cases applied
    | yes => simp [ih applied]
    | verbose => simp [ih applied]

theorem ne_compile_of_apply {order : Order} (applied : draft.apply flags = .inr order) :
    order ≠ .compile request := by
  induction flags generalizing draft with
  | nil => cases applied
  | cons flag flags ih =>
    cases flag with
    | help =>
      cases applied
      exact nofun
    | version =>
      cases applied
      exact nofun
    | yes => exact ih applied
    | verbose => exact ih applied

theorem overwrite_finish (finished : draft.finish = .ok (.compile request)) :
    request.overwrite = draft.overwrite := by
  unfold Draft.finish at finished
  split at finished
  · cases finished
  · split at finished
    · cases finished
      rfl
    · cases finished

theorem follow_of_taken {operands : Text × Option Text}
    (taken : (if draft.operands.isNone then takeOperands? readings else none) =
      some (operands, rest)) :
    follow draft readings = follow { draft with operands := some operands } rest := by
  rw [follow]
  split
  · next other remaining same =>
    rw [taken] at same
    cases same
    rfl
  · next none_taken =>
    rw [taken] at none_taken
    cases none_taken

/-- Where no operands are taken, the first reading is. -/
theorem follow_of_untaken
    (untaken : (if draft.operands.isNone then takeOperands? readings else none) = none) :
    follow draft readings =
      match readings with
      | [] => draft.finish
      | .operand t :: rest | .unknown t :: rest => follow (draft.reject t) rest
      | .separator :: rest => follow (draft.reject "--") rest
      | .flag use :: rest => cluster use.flag use.spelling use.attached >>= fun flags =>
        match draft.apply flags with
        | .inl draft => follow draft rest
        | .inr order => pure order := by
  rw [follow]
  split
  · next operands remaining taken =>
    rw [untaken] at taken
    cases taken
  · split <;> rfl

theorem gives_cons_of_ne {reading : Reading} (other : ∀ use, reading ≠ .flag use) :
    Gives (reading :: readings) flag ↔ Gives readings flag := by
  apply gives_congr
  intro use
  simp [Ne.symm (other use)]

theorem overwrite_follow (followed : follow draft readings = .ok (.compile request)) :
    request.overwrite = true ↔ draft.overwrite = true ∨ Gives readings .yes := by
  induction draft, readings using follow.induct with
  | case1 draft readings operands rest taken ih =>
    rw [follow_of_taken taken] at followed
    rw [ih followed]
    split at taken
    · rw [gives_takeOperands? taken]
    · cases taken
  | case2 draft untaken =>
    rw [follow_of_untaken untaken] at followed
    rw [overwrite_finish followed]
    simp [Gives]
  | case3 draft t rest untaken ih | case4 draft t rest untaken ih | case5 draft rest untaken ih =>
    rw [follow_of_untaken untaken] at followed
    rw [ih followed, gives_cons_of_ne]
    · rfl
    · exact nofun
  | case6 draft use rest untaken ih =>
    rw [follow_of_untaken untaken] at followed
    obtain ⟨flags, grouped, followed⟩ := Except.exists_of_bind_eq_ok followed
    rw [gives_cons_iff grouped]
    cases applied : draft.apply flags with
    | inl after =>
      rw [applied] at followed
      rw [ih after followed, overwrite_apply applied, or_assoc]
    | inr order =>
      rw [applied] at followed
      exact absurd (Except.ok.inj followed) (ne_compile_of_apply applied)

/-- A request that overwrites was made with the flag for it, in one of its spellings. -/
theorem overwrite_parse {arguments : List Text}
    (parsed : parse arguments = .ok (.compile request)) :
    request.overwrite = true ↔ IsGiven arguments .yes := by
  obtain ⟨readings, read, followed⟩ := Except.exists_of_bind_eq_ok parsed
  rw [overwrite_follow followed, IsGiven, read]
  simp

end EventScript.CommandLine
