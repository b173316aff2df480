import EventScript.Proofs.CommandLine.Consent
import EventScript.Proofs.Output

/-!
# Exit statuses

A run that is asked to compile exits with status 0 after its script is written, with 130 if it is
interrupted at work, and with 1 otherwise. What can keep it from exiting at all is the stamp in its
title, an output that names nothing, a path that is too long or that the system cannot be handed, a
source that is nested too deeply, an answer that is no text, and an interruption before or after its
work.
-/

namespace EventScript.CommandLine

open FileTree Job

variable {invocation : Invocation} {request : Request} {tree : FileTree} {breakdown : Breakdown}

/-! ## Work -/

/-- What keeps the work of a run from giving a status. -/
inductive Obstructs (invocation : Invocation) (request : Request) (tree : FileTree) :
    Breakdown → Prop
  | stamp {config : Script.Config} {fault : Console.Fault}
    (configured : Script.Config.load none invocation.stampVariable = .ok config)
    (garbles : invocation.console.line (title config.stamp) = .error fault) :
    Obstructs invocation request tree (.console fault)
  | source {config : Script.Config} {shown : Text}
    (configured : Script.Config.load none invocation.stampVariable = .ok config)
    (titled : invocation.console.line (title config.stamp) = .ok shown)
    (beyond : tree.IsOutOfReach (Path.ofText request.source)) :
    Obstructs invocation request tree (.pathTooLong (Path.ofText request.source))
  | nameless {config : Script.Config} {shown wish : Text}
    (configured : Script.Config.load none invocation.stampVariable = .ok config)
    (titled : invocation.console.line (title config.stamp) = .ok shown)
    (holds : tree.HoldsFile (Path.ofText request.source))
    (asked : request.output = some wish) (nonempty : wish ≠ [])
    (nameless : (Path.ofText wish).name = []) :
    Obstructs invocation request tree (.namelessPath (Path.ofText wish))
  | nested {config : Script.Config} {output : Path} {container : Json.Container}
    (starts : Starts invocation request tree config output)
    (nests : Source.Nests invocation.levels tree (Path.ofText request.source) container) :
    Obstructs invocation request tree (.nesting container)
  | output {config : Script.Config} {output : Path} {compilation : Compilation}
    (prepares : Prepares invocation request tree config output compilation)
    (beyond : tree.IsOutOfReach output) :
    Obstructs invocation request tree (.pathTooLong output)
  | unspeakable {config : Script.Config} {output : Path} {compilation : Compilation}
    {reason : Unspeakable} (prepares : Prepares invocation request tree config output compilation)
    (refused : unspeakable? output.toText = some reason) :
    Obstructs invocation request tree (.unspeakablePath reason)
  | unanswered {config : Script.Config} {output : Path} {compilation : Compilation}
    {breakdown : Breakdown} (prepares : Prepares invocation request tree config output compilation)
    (leads : tree.Leads output) (unforced : ¬IsGiven invocation.arguments .yes)
    (garbled : Answers invocation.typed (.error breakdown)) :
    Obstructs invocation request tree breakdown

/-- The link in a banner is never in the way of a console that keeps its promises. -/
theorem showingBanner_eq {console : Console} (lawful : console.Lawful) (stamp link : Text) :
    showingBanner console stamp link = showing console (title stamp) := by
  obtain ⟨shown, said⟩ := lawful.shows_escaped "dim yellow" (by decide) link
  have linked : showing console (Console.styled "dim yellow" (console.escape link)) = .ok () := by
    unfold showing
    rw [said]
  unfold showingBanner
  rw [linked]
  cases showing console (title stamp) with
  | error failure => rfl
  | ok titled => split <;> rfl

theorem showingBanner_eq_ok_iff {console : Console} (lawful : console.Lawful)
    {stamp link : Text} :
    showingBanner console stamp link = .ok () ↔
      ∃ shown, console.line (title stamp) = .ok shown := by
  rw [showingBanner_eq lawful, showing]
  cases console.line (title stamp) <;> simp

/-- A source that is nested too deeply is as far as the work gets. -/
theorem Starts.result_of_nests {config : Script.Config} {output : Path}
    {container : Json.Container} (starts : Starts invocation request tree config output)
    (nests : Source.Nests invocation.levels tree (Path.ofText request.source) container) :
    (work invocation request tree).result = .error (.brokeDown (.nesting container)) := by
  obtain ⟨events, -, ran⟩ := compileFile_apply_error (compilationOf_of_nests nests config) output
    (consentOf invocation request) true
  rw [starts.surrounds.result_eq, innerCompile, ran]
  rfl

theorem Obstructs.result_eq (obstructs : Obstructs invocation request tree breakdown)
    (lawful : invocation.console.Lawful)
    (parsed : parse invocation.arguments = .ok (.compile request)) :
    (work invocation request tree).result = .error (.brokeDown breakdown) := by
  have titled {config : Script.Config} {shown : Text}
      (said : invocation.console.line (title config.stamp) = .ok shown) :
      showingBanner invocation.console config.stamp invocation.projectLink = .ok () :=
    (showingBanner_eq_ok_iff lawful).mpr ⟨shown, said⟩
  cases obstructs with
  | stamp configured garbles =>
    apply (Stops.untitled configured _).quiet.result_eq
    rw [showingBanner_eq lawful, showing, garbles]
  | source configured said beyond =>
    exact (Stops.outOfReach configured (titled said) beyond).quiet.result_eq
  | nameless configured said holds asked nonempty nameless =>
    have refused := (@Output.path_eq_error_iff (Path.ofText request.source) request.output _).mpr
      ⟨_, asked, nonempty, nameless, rfl⟩
    exact (Stops.unresolved configured (titled said) holds refused).quiet.result_eq
  | nested starts nests => exact starts.result_of_nests nests
  | output prepares beyond =>
    obtain ⟨after, result, -, ended, writes⟩ := prepares.exists_writes
    rw [ended, (writes.eq_of_isOutOfReach beyond).2]
    rfl
  | unspeakable prepares refused =>
    obtain ⟨after, result, -, ended, writes⟩ := prepares.exists_writes
    rw [ended, (writes.eq_of_unspeakable refused).2]
    rfl
  | @unanswered config output compilation _ prepares leads unforced garbled =>
    have answered : answerOf output (consentOf invocation request) = .error breakdown :=
      (answerOf_iff lawful parsed).mpr (.inr ⟨unforced, garbled⟩)
    obtain ⟨after, result, -, ended, writes⟩ := prepares.exists_writes
    rw [ended, (writes.eq_of_unanswered leads answered).2]
    rfl

/-- How the work of a run ends. -/
inductive Ends (invocation : Invocation) (request : Request) (tree : FileTree) :
    Except Failure Nat → Prop
  | obstructed {breakdown : Breakdown}
    (obstructs : Obstructs invocation request tree breakdown) :
    Ends invocation request tree (.error (.brokeDown breakdown))
  | refused : Ends invocation request tree (.ok 1)
  | delivered {config : Script.Config} {output : Path} {compilation : Compilation}
    (delivers : Delivers invocation request tree (work invocation request tree).tree config output
      compilation) :
    Ends invocation request tree (.ok 0)

theorem Stops.ends {result : Except Failure Nat} (stops : Stops invocation request tree result)
    (lawful : invocation.console.Lawful) : Ends invocation request tree result := by
  have shown {config : Script.Config}
      (titled : showingBanner invocation.console config.stamp invocation.projectLink = .ok ()) :=
    (showingBanner_eq_ok_iff lawful).mp titled
  cases stops with
  | misconfigured | sourceless => exact .refused
  | untitled configured refused =>
    rw [showingBanner_eq lawful, showing] at refused
    split at refused
    · next garbles =>
      cases refused
      exact .obstructed (.stamp configured garbles)
    · cases refused
  | outOfReach configured titled beyond =>
    obtain ⟨shown, said⟩ := shown titled
    exact .obstructed (.source configured said beyond)
  | unresolved configured titled holds refused =>
    obtain ⟨shown, said⟩ := shown titled
    obtain ⟨wish, asked, nonempty, nameless, rfl⟩ := Output.path_eq_error_iff.mp refused
    exact .obstructed (.nameless configured said holds asked nonempty nameless)

/-- Once the script is made, work ends as writing does. -/
theorem Prepares.ends {config : Script.Config} {output : Path} {compilation : Compilation}
    (prepares : Prepares invocation request tree config output compilation)
    (lawful : invocation.console.Lawful)
    (parsed : parse invocation.arguments = .ok (.compile request)) :
    Ends invocation request tree (work invocation request tree).result := by
  have answers {answer : Except Breakdown Bool} := @answerOf_iff _ _ output lawful parsed answer
  obtain ⟨after, result, left, ended, writes⟩ := prepares.exists_writes
  rw [ended]
  cases writes with
  | unspeakable refused => exact .obstructed (.unspeakable prepares refused)
  | outOfReach beyond => exact .obstructed (.output prepares beyond)
  | declined | unwritable => exact .refused
  | unanswered leads broke =>
    rcases answers.mp broke with ⟨-, granted⟩ | ⟨unforced, garbled⟩
    · cases granted
    · exact .obstructed (.unanswered prepares leads unforced garbled)
  | stored speakable near allowed kept =>
    simp only [Except.map, conclude_ok lawful]
    refine .delivered ⟨prepares, speakable, fun leads => ?_, left ▸ kept⟩
    rcases answers.mp (allowed leads) with ⟨forced, -⟩ | ⟨-, granted⟩
    · exact .inl forced
    · exact .inr granted

theorem ends_work (lawful : invocation.console.Lawful)
    (parsed : parse invocation.arguments = .ok (.compile request)) (tree : FileTree) :
    Ends invocation request tree (work invocation request tree).result := by
  rcases stops_or_starts invocation request tree with ⟨result, stops⟩ | ⟨config, output, starts⟩
  · rw [stops.quiet.result_eq]
    exact stops.ends lawful
  cases making : compilationOf invocation.levels tree (Path.ofText request.source) config with
  | ok compilation =>
    exact Prepares.ends ⟨starts, compilationOf_eq_ok_iff.mp making⟩ lawful parsed
  | error failure =>
    obtain ⟨events, -, ran⟩ :=
      compileFile_apply_error making output (consentOf invocation request) true
    by_cases nested : ∃ container,
        Source.Nests invocation.levels tree (Path.ofText request.source) container
    · obtain ⟨container, nests⟩ := nested
      rw [starts.result_of_nests nests]
      exact .obstructed (.nested starts nests)
    · have settles := settles_compilationOf starts.holds.1 (not_exists.mp nested) config
      rw [making] at settles
      obtain ⟨refusal, rfl⟩ := settles.exists_refusal
      rw [starts.surrounds.result_eq, innerCompile, ran]
      exact .refused

/-! ## Interruptions -/

/-- An interruption arrives while the run works, and not at a prompt. -/
def IsCancelled (invocation : Invocation) (request : Request) (tree : FileTree) : Prop :=
  ∃ count bytes, invocation.interruption = some (.working count bytes) ∧
    count ≤ (work invocation request tree).events.length ∧
    isPrompting ((work invocation request tree).events.take count) = false

theorem isCancelled_iff : IsCancelled invocation request tree ↔
    ∃ count bytes, invocation.interruption = some (.working count bytes) ∧
      happened? (work invocation request tree).events count bytes ≠ none := by
  simp only [IsCancelled, Ne, happened?_eq_none_iff, not_not]

/-- What ends a run without a status. -/
inductive Escapes (invocation : Invocation) (request : Request) (tree : FileTree) :
    Breakdown → Prop
  | obstructed {breakdown : Breakdown} (obstructs : Obstructs invocation request tree breakdown)
    (begun : invocation.interruption ≠ some .starting)
    (uncancelled : ¬IsCancelled invocation request tree) :
    Escapes invocation request tree breakdown
  | starting (early : invocation.interruption = some .starting) :
    Escapes invocation request tree .interrupted
  | leaving (late : invocation.interruption = some .leaving)
    (free : ∀ breakdown, ¬Obstructs invocation request tree breakdown) :
    Escapes invocation request tree .interrupted

/-- No interruption comes in between. -/
structure IsUndisturbed (invocation : Invocation) (request : Request) (tree : FileTree) : Prop where
  begun : invocation.interruption ≠ some .starting
  finished : invocation.interruption ≠ some .leaving
  uncancelled : ¬IsCancelled invocation request tree

/-- What becomes of a work in the end: it is left in peace, or is interrupted before, during or
after it. -/
theorem Becomes.cases_of_interruption {outcome : Outcome Nat}
    (becomes : Becomes invocation request tree outcome) :
    (IsUndisturbed invocation request tree ∧ outcome = work invocation request tree) ∨
    (invocation.interruption = some .starting ∧
      outcome.result = .error (.brokeDown .interrupted)) ∨
    (IsCancelled invocation request tree ∧ outcome.result = .ok 130) ∨
    (invocation.interruption = some .leaving ∧ outcome.result =
      (work invocation request tree).result.bind fun _ => .error (.brokeDown .interrupted)) := by
  cases becomes with
  | peaceful undisturbed =>
    refine .inl ⟨⟨by simp [undisturbed], by simp [undisturbed], ?_⟩, rfl⟩
    rintro ⟨count, bytes, interrupted, -⟩
    cases undisturbed.symm.trans interrupted
  | starting early => exact .inr (.inl ⟨early, rfl⟩)
  | unheard interrupted missed =>
    refine .inl ⟨⟨by simp [interrupted], by simp [interrupted], ?_⟩, rfl⟩
    rw [isCancelled_iff]
    rintro ⟨count, bytes, same, heard⟩
    cases interrupted.symm.trans same
    exact heard missed
  | cancelled interrupted happened =>
    exact .inr (.inr (.inl ⟨isCancelled_iff.mpr ⟨_, _, interrupted, by simp [happened]⟩, rfl⟩))
  | leaving late => exact .inr (.inr (.inr ⟨late, rfl⟩))

/-! ## Runs -/

theorem IsCancelled.ne (cancelled : IsCancelled invocation request tree) :
    invocation.interruption ≠ some .starting ∧ invocation.interruption ≠ some .leaving := by
  obtain ⟨count, bytes, interrupted, -⟩ := cancelled
  rw [interrupted]
  exact ⟨nofun, nofun⟩

section Results

variable {outcome : Outcome Nat} (becomes : Becomes invocation request tree outcome)
  (lawful : invocation.console.Lawful)
  (parsed : parse invocation.arguments = .ok (.compile request))
include becomes lawful parsed

theorem Becomes.eq_error_iff {failure : Failure} : outcome.result = .error failure ↔
    ∃ breakdown, failure = .brokeDown breakdown ∧ Escapes invocation request tree breakdown := by
  have ends := ends_work lawful parsed tree
  constructor
  · intro failed
    rcases becomes.cases_of_interruption with ⟨⟨begun, -, uncancelled⟩, rfl⟩ | ⟨early, result⟩ |
      ⟨-, result⟩ | ⟨late, result⟩
    · rw [failed] at ends
      cases ends with
      | obstructed obstructs => exact ⟨_, rfl, .obstructed obstructs begun uncancelled⟩
    · cases failed.symm.trans result
      exact ⟨_, rfl, .starting early⟩
    · cases failed.symm.trans result
    · rw [result] at failed
      have uncancelled (cancelled : IsCancelled invocation request tree) : False :=
        cancelled.ne.2 late
      rcases worked : (work invocation request tree).result with failure | status
      · rw [worked] at failed ends
        cases failed
        cases ends with
        | obstructed obstructs =>
          exact ⟨_, rfl, .obstructed obstructs (by simp [late]) uncancelled⟩
      · rw [worked] at failed
        cases failed
        refine ⟨_, rfl, .leaving late fun breakdown obstructs => ?_⟩
        cases worked.symm.trans (obstructs.result_eq lawful parsed)
  · rintro ⟨breakdown, rfl, escapes⟩
    rcases becomes.cases_of_interruption with ⟨⟨begun, finished, -⟩, rfl⟩ | ⟨early, result⟩ |
      ⟨cancelled, result⟩ | ⟨late, result⟩
    · cases escapes with
      | obstructed obstructs => exact obstructs.result_eq lawful parsed
      | starting early => exact absurd early begun
      | leaving late => exact absurd late finished
    · cases escapes with
      | obstructed _ begun => exact absurd early begun
      | starting => exact result
      | leaving late => cases early.symm.trans late
    · cases escapes with
      | obstructed _ _ uncancelled => exact absurd cancelled uncancelled
      | starting early => exact absurd early cancelled.ne.1
      | leaving late => exact absurd late cancelled.ne.2
    · rw [result]
      cases escapes with
      | obstructed obstructs => rw [obstructs.result_eq lawful parsed]; rfl
      | starting early => cases early.symm.trans late
      | leaving _ free =>
        cases worked : (work invocation request tree).result with
        | ok status => rfl
        | error failure =>
          rw [worked] at ends
          cases ends with
          | obstructed obstructs => exact absurd obstructs (free _)

theorem Becomes.status_cases {status : Nat} (exited : outcome.result = .ok status) :
    status = 0 ∨ status = 1 ∨ status = 130 := by
  have ends := ends_work lawful parsed tree
  rcases becomes.cases_of_interruption with ⟨-, rfl⟩ | ⟨-, result⟩ | ⟨-, result⟩ | ⟨-, result⟩
  · rw [exited] at ends
    cases ends <;> decide
  · cases exited.symm.trans result
  · cases exited.symm.trans result
    decide
  · exact absurd (result.symm.trans exited) (Except.bind_error_ne_ok _ _ _)

theorem Becomes.eq_ok_zero_iff : outcome.result = .ok 0 ↔
    IsUndisturbed invocation request tree ∧ ∃ config output compilation,
      Delivers invocation request tree outcome.tree config output compilation := by
  have ends := ends_work lawful parsed tree
  constructor
  · intro exited
    rcases becomes.cases_of_interruption with ⟨undisturbed, rfl⟩ | ⟨-, result⟩ | ⟨-, result⟩ |
      ⟨-, result⟩
    · rw [exited] at ends
      cases ends with
      | delivered delivers => exact ⟨undisturbed, _, _, _, delivers⟩
    · cases exited.symm.trans result
    · cases exited.symm.trans result
    · exact absurd (result.symm.trans exited) (Except.bind_error_ne_ok _ _ _)
  · rintro ⟨⟨begun, finished, uncancelled⟩, config, output, compilation, delivers⟩
    rcases becomes.cases_of_interruption with ⟨-, rfl⟩ | ⟨early, -⟩ | ⟨cancelled, -⟩ | ⟨late, -⟩
    · exact (delivers.work_eq lawful parsed).2
    · exact absurd early begun
    · exact absurd cancelled uncancelled
    · exact absurd late finished

theorem Becomes.eq_ok_cancelled_iff :
    outcome.result = .ok 130 ↔ IsCancelled invocation request tree := by
  have ends := ends_work lawful parsed tree
  rcases becomes.cases_of_interruption with ⟨undisturbed, rfl⟩ | ⟨early, result⟩ |
    ⟨cancelled, result⟩ | ⟨late, result⟩
  · constructor
    · intro exited
      rw [exited] at ends
      cases ends
    · exact fun cancelled => absurd cancelled undisturbed.uncancelled
  · rw [result]
    exact ⟨nofun, fun cancelled => absurd early cancelled.ne.1⟩
  · exact ⟨fun _ => cancelled, fun _ => result⟩
  · rw [result]
    constructor
    · exact fun exited => absurd exited (Except.bind_error_ne_ok _ _ _)
    · exact fun cancelled => absurd late cancelled.ne.2

end Results

/-- Unless something obstructs it, a run that is asked to compile exits, and each status has its one
meaning. What does not end with status 0 leaves the files as they were, unless an interruption comes
when some of the script is written, and then all that is changed is the output. -/
theorem run_ending (lawful : invocation.console.Lawful)
    (parsed : parse invocation.arguments = .ok (.compile request)) (tree : FileTree) :
    (∀ failure, (run invocation tree).ending = .escaped failure ↔
      ∃ breakdown, failure = .brokeDown breakdown ∧
        Escapes invocation request tree breakdown) ∧
    (∀ status, (run invocation tree).ending = .exit status →
      status = 0 ∨ status = 1 ∨ status = 130) ∧
    ((run invocation tree).ending = .exit 0 ↔
      IsUndisturbed invocation request tree ∧ ∃ config output compilation,
        Delivers invocation request tree (run invocation tree).tree config output compilation) ∧
    ((run invocation tree).ending = .exit 130 ↔ IsCancelled invocation request tree) ∧
    ((run invocation tree).ending ≠ .exit 0 → (run invocation tree).tree = tree ∨
      invocation.interruption ≠ none ∧ ∃ config output compilation size,
        Delivers invocation request tree (work invocation request tree).tree config output
          compilation ∧
        tree.store output (compilation.script.take size) = .ok (run invocation tree).tree) := by
  have becomes := becomes_compile invocation request tree
  obtain ⟨ending_eq, tree_eq⟩ := @run_eq_of_parse invocation request tree parsed
  have exit_iff (status : Nat) : (run invocation tree).ending = .exit status ↔
      (compile invocation request tree).result = .ok status := by
    rw [ending_eq]
    cases (compile invocation request tree).result <;> simp [Ending.ofResult]
  rw [exit_iff, exit_iff, tree_eq]
  refine ⟨?_, ?_, becomes.eq_ok_zero_iff lawful parsed, becomes.eq_ok_cancelled_iff lawful parsed,
    ?_⟩
  · intro failure
    rw [← becomes.eq_error_iff lawful parsed, ending_eq]
    cases (compile invocation request tree).result <;> simp [Ending.ofResult]
  · intro status exited
    exact becomes.status_cases lawful parsed ((exit_iff status).mp exited)
  · intro unfinished
    rcases becomes.tree_cases parsed with
      kept | ⟨config, output, compilation, size, delivers, stored, -⟩
    · exact .inl kept
    · refine .inr ⟨?_, config, output, compilation, size, delivers, stored⟩
      intro undisturbed
      rw [Ne, exit_iff, compile_of_undisturbed undisturbed] at unfinished
      exact unfinished (delivers.work_eq lawful parsed).2

/-- A run for the sample table that names no output, but the directory it is in. -/
def nowhere : Invocation where
  arguments := ["a.csv", "."]
  console := bareConsole
  time := []

theorem parse_nowhere :
    parse nowhere.arguments = .ok (.compile ⟨"a.csv", some ".", false, false⟩) :=
  Except.eq_ok_of_toOption (by decide +kernel)

theorem escapes_nowhere : Escapes nowhere ⟨"a.csv", some ".", false, false⟩ olderTree
    (.namelessPath (Path.ofText ".")) := by
  have obstructs : Obstructs nowhere ⟨"a.csv", some ".", false, false⟩ olderTree
      (.namelessPath (Path.ofText ".")) :=
    .nameless rfl rfl ⟨rfl, _, rfl⟩ rfl nofun rfl
  refine .obstructed obstructs nofun ?_
  rintro ⟨count, bytes, interrupted, -⟩
  cases interrupted

theorem run_ending_nowhere :
    (run nowhere olderTree).ending = .escaped (.brokeDown (.namelessPath (Path.ofText "."))) ∧
      (run nowhere olderTree).tree = olderTree := by
  obtain ⟨escapes, -, -, -, keeps⟩ := run_ending bareConsole_lawful parse_nowhere olderTree
  have escaped := (escapes _).mpr ⟨_, rfl, escapes_nowhere⟩
  refine ⟨escaped, (keeps ?_).resolve_right fun disturbed => disturbed.1 rfl⟩
  rw [escaped]
  exact nofun

/-- Not every run that is asked to compile exits, even if nothing interrupts it. -/
theorem not_forall_run_exits :
    ¬∀ (invocation : Invocation) (request : Request) (tree : FileTree),
      invocation.console.Lawful → invocation.interruption = none →
      parse invocation.arguments = .ok (.compile request) →
      ∃ status, (status = 0 ∨ status = 1 ∨ status = 130) ∧
        (run invocation tree).ending = .exit status := by
  intro exits
  obtain ⟨status, -, exited⟩ := exits nowhere _ olderTree bareConsole_lawful rfl parse_nowhere
  have becomes := becomes_compile nowhere ⟨"a.csv", some ".", false, false⟩ olderTree
  have failed :=
    (becomes.eq_error_iff bareConsole_lawful parse_nowhere).mpr ⟨_, rfl, escapes_nowhere⟩
  rw [(run_eq_of_parse parse_nowhere).1, failed] at exited
  cases exited

end EventScript.CommandLine
