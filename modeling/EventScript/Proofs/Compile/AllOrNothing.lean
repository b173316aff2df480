import EventScript.Proofs.Compile.Stages
import EventScript.Proofs.Compile.Writing

/-!
# All or nothing

A compile that fails leaves every file and directory as it was, whatever stands against it. One that
succeeds has changed its output and nothing else.
-/

namespace EventScript

open Job

/-- How a compile ends once its script is made: in the way that writing ends. -/
theorem compileFile_apply {levels : Option Nat} {tree : FileTree} {source : Path}
    {config : Script.Config} {compilation : Compilation}
    (made : compilation.IsOf levels tree source config) (target : Path)
    (consent : Option Consent) (listened : Bool) :
    ∃ before after,
      (∀ event ∈ before, event.isIdle = true) ∧ (∀ event ∈ after, event.isIdle = true) ∧
      compileFile levels source target config consent listened tree =
        ⟨(writeScript compilation.script target consent tree).tree,
          before ++ ((writeScript compilation.script target consent tree).events ++ after),
          (writeScript compilation.script target consent tree).result.map fun size =>
            ⟨source, target, compilation.rows.length, compilation.rows.length, size⟩⟩ := by
  have quiet := quiet_prepare levels tree source target config listened
  rw [compilationOf_eq_ok_iff.mpr made] at quiet
  rw [compileFile_eq, quiet.bind_apply, made.length_commands]
  rcases ran : writeScript compilation.script target consent tree with
    ⟨written, events, failure | size⟩
  · refine ⟨_, [], quiet.isIdle, nofun, ?_⟩
    rw [bind_of_error ran, List.append_nil]
    rfl
  · refine ⟨_, [.log .info .compiler (.concat ["Compiled ", source.toText, " → ", target.toText,
      " (", Numeral.digits compilation.rows.length, " commands, ", Numeral.digits size,
      " bytes)"])], quiet.isIdle, ?_, ?_⟩
    · intro event membership
      rw [List.mem_singleton.mp membership]
      rfl
    · rw [bind_of_ok ran]
      rfl

/-- Without a script there is nothing to write. -/
theorem compileFile_apply_error {levels : Option Nat} {tree : FileTree} {source : Path}
    {config : Script.Config} {failure : Failure}
    (unmade : compilationOf levels tree source config = .error failure)
    (target : Path) (consent : Option Consent) (listened : Bool) :
    ∃ events, (∀ event ∈ events, event.isIdle = true) ∧
      compileFile levels source target config consent listened tree =
        ⟨tree, events, .error failure⟩ := by
  have quiet := quiet_prepare levels tree source target config listened
  rw [unmade] at quiet
  refine ⟨_, quiet.isIdle, ?_⟩
  rw [compileFile_eq, quiet.bind_apply_error]

/-- A compile fails and leaves the tree as it was, or it returns, and the output holds the script of
its source while nothing else has changed. Consent is asked for at most once, and only where a
finished script is to replace something. -/
theorem compileFile_allOrNothing (levels : Option Nat) (tree : FileTree) (source target : Path)
    (config : Script.Config) (consent : Option Consent) (listened : Bool) :
    let outcome := compileFile levels source target config consent listened tree
    (match outcome.result with
      | .error _ => outcome.tree = tree
      | .ok summary => ∃ compilation : Compilation, compilation.IsOf levels tree source config ∧
          tree.Stored outcome.tree target compilation.script ∧
          summary = ⟨source, target, compilation.rows.length, compilation.rows.length,
            compilation.script.length⟩) ∧
      ∃ before asked after, outcome.events = before ++ (asked ++ after) ∧
        (∀ event ∈ before ++ after, event.isQuestion = false) ∧
        (asked = consultation target consent ∧ tree.Leads target ∧
            (∃ compilation : Compilation, compilation.IsOf levels tree source config) ∨
          asked = [] ∧ ¬(tree.Leads target ∧
            ∃ compilation : Compilation, compilation.IsOf levels tree source config)) := by
  intro outcome
  cases making : compilationOf levels tree source config with
  | error failure =>
    obtain ⟨events, idle, ran⟩ := compileFile_apply_error making target consent listened
    have ended : outcome = ⟨tree, events, .error failure⟩ := ran
    rw [ended]
    refine ⟨rfl, events, [], [], by simp, ?_, .inr ⟨rfl, ?_⟩⟩
    · intro event membership
      rw [List.append_nil] at membership
      exact Event.isQuestion_eq_of_isIdle (idle event membership)
    · rintro ⟨-, compilation, made⟩
      rw [compilationOf_eq_ok_iff.mpr made] at making
      cases making
  | ok compilation =>
    have made := compilationOf_eq_ok_iff.mp making
    obtain ⟨before, after, idleBefore, idleAfter, ran⟩ :=
      compileFile_apply made target consent listened
    obtain ⟨wrote, asked, confirmed, told, events_eq, idleConfirmed, idleTold, asking⟩ :=
      wrote_writeScript compilation.script target consent tree
    have ended : outcome = _ := ran
    rw [ended]
    refine ⟨?_, before, asked, confirmed ++ writing target compilation.script
      (writeScript compilation.script target consent tree).result ++ told ++ after, ?_, ?_, ?_⟩
    · unfold Wrote at wrote
      cases result : (writeScript compilation.script target consent tree).result with
      | error failure =>
        rw [result] at wrote
        exact wrote
      | ok size =>
        rw [result] at wrote
        obtain ⟨rfl, stored⟩ := wrote
        exact ⟨compilation, made, stored, rfl⟩
    · simp only [events_eq, List.append_assoc]
    · intro event membership
      simp only [List.mem_append] at membership
      rcases membership with early | ((idle | written) | late) | last
      · exact Event.isQuestion_eq_of_isIdle (idleBefore event early)
      · exact Event.isQuestion_eq_of_isIdle (idleConfirmed event idle)
      · exact isQuestion_eq_of_mem_writing _ _ _ event written
      · exact Event.isQuestion_eq_of_isIdle (idleTold event late)
      · exact Event.isQuestion_eq_of_isIdle (idleAfter event last)
    · rcases asking with ⟨existing, asked_eq⟩ | ⟨missing, asked_eq⟩
      · exact .inl ⟨asked_eq, existing, compilation, made⟩
      · exact .inr ⟨asked_eq, fun existing => missing existing.1⟩

end EventScript
