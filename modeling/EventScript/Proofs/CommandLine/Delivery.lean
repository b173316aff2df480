import EventScript.Proofs.CommandLine.Arguments
import EventScript.Proofs.CommandLine.Interruption
import EventScript.Proofs.CommandLine.Prompt
import EventScript.Proofs.CommandLine.Run
import EventScript.Proofs.Compile.Ending

/-!
# What runs write

A run writes its script or nothing, and asks before it replaces anything. An interruption may leave
some of the script where all of it should be, but touches nothing else.
-/

namespace EventScript.CommandLine

open FileTree Job

variable {invocation : Invocation} {request : Request} {tree after : FileTree}
  {config : Script.Config} {output : Path} {compilation : Compilation}

/-! ## Consent -/

section Consent

variable {console : Console} {path : Path} {overwrite : Bool} {typed : List Typed} {event : Event}

/-- With the flag nobody is asked; without it the answer is that of the prompt. -/
theorem answerOf_consent_iff {prompt : Text} {answer : Except Breakdown Bool}
    (asks : console.question (Console.styled "yellow" (console.escape (overwriteQuestion path))) =
      .ok prompt) :
    answerOf path (some (consent console overwrite typed)) = answer ↔
      overwrite = true ∧ answer = .ok true ∨ overwrite = false ∧ Answers typed answer := by
  cases overwrite with
  | true => simp [answerOf, consent, eq_comm]
  | false => simp [answerOf, consent, ask, asks, ← @answer_answerFrom_iff prompt]

theorem granted_of_answerOf
    (granted : answerOf path (some (consent console overwrite typed)) = .ok true) :
    overwrite = true ∨ Answers typed (.ok true) := by
  cases asks : console.question (Console.styled "yellow" (console.escape (overwriteQuestion path)))
    with
  | error fault =>
    cases overwrite with
    | true => exact .inl rfl
    | false => simp [answerOf, consent, ask, asks] at granted
  | ok prompt =>
    rcases (answerOf_consent_iff asks).mp granted with ⟨forced, -⟩ | ⟨-, answers⟩
    · exact .inl forced
    · exact .inr answers

theorem plain_of_mem_answerFrom {prompt : Text}
    (membership : event ∈ (answerFrom prompt typed).events) :
    event.isQuestion = false ∧ event.isWriting = false := by
  obtain ⟨before, item, after, closing, -, -, -, closes, shown⟩ := answerFrom_eq prompt typed
  have closed : ∀ events ∈ closings, ∀ event ∈ events,
      event.isQuestion = false ∧ event.isWriting = false := by decide
  rw [shown] at membership
  rcases List.mem_append.mp membership with early | late
  · obtain ⟨item, -, repeated⟩ := List.mem_flatMap.mp early
    simp only [repetition, List.mem_cons, List.not_mem_nil, or_false] at repeated
    rcases repeated with rfl | rfl <;> exact ⟨rfl, rfl⟩
  · rcases List.mem_cons.mp late with rfl | last
    · exact ⟨rfl, rfl⟩
    · exact closed closing closes event last

/-- Asking asks nothing else and writes nothing. -/
theorem plain_of_mem_consent {question : Text}
    (membership : event ∈ (consent console overwrite typed question).events) :
    event.isQuestion = false ∧ event.isWriting = false := by
  unfold consent at membership
  split at membership
  · rw [List.mem_singleton.mp membership]
    exact ⟨rfl, rfl⟩
  · unfold ask at membership
    split at membership
    · cases membership
    · rcases List.mem_cons.mp membership with rfl | later
      · exact ⟨rfl, rfl⟩
      · exact plain_of_mem_answerFrom later

theorem isWriting_eq_of_mem_consultation
    (membership : event ∈ consultation path (some (consent console overwrite typed))) :
    event.isWriting = false := by
  rcases List.mem_cons.mp membership with rfl | later
  · rfl
  · exact (plain_of_mem_consent later).2

theorem question_mem_consultation_iff {message : Text} :
    .question message ∈ consultation path (some (consent console overwrite typed)) ↔
      message = overwriteQuestion path := by
  simp only [consultation, List.mem_cons, Event.question.injEq]
  constructor
  · rintro (same | answered)
    · exact same
    · cases (plain_of_mem_consent answered).1
  · exact .inl

end Consent

/-! ## The work of a run -/

/-- A run that is ready to write asks about an output that exists, and then writes. -/
theorem Prepares.exists_events_eq
    (prepares : Prepares invocation request tree config output compilation) :
    let consent := consentOf invocation request
    ∃ before asked between behind, (work invocation request tree).events =
        before ++ (asked ++ (between ++ writing output compilation.script
          (writeScript compilation.script output consent tree).result ++ behind)) ∧
      (∀ event ∈ before, event.isIdle = true) ∧ (∀ event ∈ between, event.isIdle = true) ∧
      (∀ event ∈ behind, event.isIdle = true) ∧
      (tree.Leads output ∧ asked = consultation output consent ∨
        ¬tree.Leads output ∧ asked = []) := by
  intro consent
  obtain ⟨before, behind, idleBefore, idleBehind, worked⟩ := prepares.work_apply
  obtain ⟨-, asked, between, told, seen, idleBetween, idleTold, asking⟩ :=
    wrote_writeScript compilation.script output consent tree
  refine ⟨before, asked, between, told ++ behind, ?_, idleBefore, idleBetween, ?_, asking⟩
  · rw [worked, seen]
    simp only [List.append_assoc]
  · exact List.forall_mem_append.mpr ⟨idleTold, idleBehind⟩

/-- A run without a script to write shows something and no more. -/
theorem quiet_or_prepares (invocation : Invocation) (request : Request) (tree : FileTree) :
    (∃ result, Quiet (work invocation request) tree result) ∨
      ∃ config output compilation, Prepares invocation request tree config output compilation := by
  rcases stops_or_starts invocation request tree with ⟨result, stops⟩ | ⟨config, output, starts⟩
  · exact .inl ⟨result, stops.quiet⟩
  cases making : compilationOf invocation.levels tree (Path.ofText request.source) config with
  | error failure =>
    obtain ⟨before, behind, idle, worked⟩ := starts.surrounds
    obtain ⟨events, idleEvents, compiled⟩ :=
      compileFile_apply_error making output (consentOf invocation request) true
    rw [innerCompile, compiled] at worked
    rw [List.forall_mem_append] at idle
    refine .inl ⟨_, by rw [worked], rfl, ?_⟩
    rw [worked]
    exact List.forall_mem_append.mpr ⟨idle.1, List.forall_mem_append.mpr ⟨idleEvents, idle.2⟩⟩
  | ok compilation =>
    exact .inr ⟨config, output, compilation, starts, compilationOf_eq_ok_iff.mp making⟩

/-- The one question of a run is about an existing output of which the script is finished. -/
theorem question_mem_work_iff {message : Text} :
    .question message ∈ (work invocation request tree).events ↔
      ∃ config output compilation, Prepares invocation request tree config output compilation ∧
        message = overwriteQuestion output ∧ tree.Leads output := by
  constructor
  · intro membership
    rcases quiet_or_prepares invocation request tree with
      ⟨result, quiet⟩ | ⟨config, output, compilation, prepares⟩
    · exact absurd membership (Event.question_notMem quiet.isQuestion_eq)
    · obtain ⟨before, asked, between, behind, seen, idleBefore, idleBetween, idleBehind, asking⟩ :=
        prepares.exists_events_eq
      rw [seen] at membership
      simp only [List.mem_append] at membership
      rcases membership with early | middle | (later | written) | last
      · cases idleBefore _ early
      · rcases asking with ⟨leads, rfl⟩ | ⟨-, rfl⟩
        · exact ⟨config, output, compilation, prepares, question_mem_consultation_iff.mp middle,
            leads⟩
        · cases middle
      · cases idleBetween _ later
      · cases isQuestion_eq_of_mem_writing _ _ _ _ written
      · cases idleBehind _ last
  · rintro ⟨config, output, compilation, prepares, rfl, leads⟩
    obtain ⟨before, asked, between, behind, seen, -, -, -, ⟨-, rfl⟩ | ⟨free, -⟩⟩ :=
      prepares.exists_events_eq
    · rw [seen]
      exact List.mem_append_right _ (List.mem_append_left _ (question_mem_consultation_iff.mpr rfl))
    · exact absurd leads free

/-- The run writes its script: the output is free or may be replaced, and the system takes it. -/
structure Delivers (invocation : Invocation) (request : Request) (tree after : FileTree)
    (config : Script.Config) (output : Path) (compilation : Compilation) : Prop where
  prepares : Prepares invocation request tree config output compilation
  speakable : unspeakable? output.toText = none
  allowed : tree.Leads output →
    IsGiven invocation.arguments .yes ∨ Answers invocation.typed (.ok true)
  kept : tree.store output compilation.script = .ok after

/-- On a console that keeps its promises the flag or else the prompt answers. -/
theorem answerOf_iff (lawful : invocation.console.Lawful)
    (parsed : parse invocation.arguments = .ok (.compile request))
    {answer : Except Breakdown Bool} :
    answerOf output (consentOf invocation request) = answer ↔
      IsGiven invocation.arguments .yes ∧ answer = .ok true ∨
        ¬IsGiven invocation.arguments .yes ∧ Answers invocation.typed answer := by
  obtain ⟨prompt, asks⟩ := lawful.asks_escaped "yellow" (by decide) (overwriteQuestion output)
  rw [consentOf, answerOf_consent_iff asks, ← overwrite_parse parsed, Bool.not_eq_true]

theorem conclude_ok (lawful : invocation.console.Lawful) (summary : Summary) :
    conclude invocation.console (.ok summary) = .ok 0 := by
  obtain ⟨shown, said⟩ := lawful.shows_plain "dim cyan" (by decide) "Script conversion done!"
    (by decide)
  simp only [conclude, showing, said]
  rfl

/-- On such a console nothing stands against a script that may be written. -/
theorem Delivers.work_eq
    (delivers : Delivers invocation request tree after config output compilation)
    (lawful : invocation.console.Lawful)
    (parsed : parse invocation.arguments = .ok (.compile request)) :
    (work invocation request tree).tree = after ∧
      (work invocation request tree).result = .ok 0 := by
  obtain ⟨prepares, speakable, allowed, kept⟩ := delivers
  have granted (leads : tree.Leads output) :
      answerOf output (consentOf invocation request) = .ok true := by
    rw [answerOf_iff lawful parsed]
    by_cases forced : IsGiven invocation.arguments .yes
    · exact .inl ⟨forced, rfl⟩
    · exact .inr ⟨forced, (allowed leads).resolve_left forced⟩
  obtain ⟨afterwards, result, rfl, ended, writes⟩ := prepares.exists_writes
  obtain ⟨tree_eq, rfl⟩ :=
    writes.eq_of_store speakable (not_isOutOfReach_of_store kept) granted kept
  exact ⟨tree_eq, ended.trans (conclude_ok lawful _)⟩

/-- A run writes nothing, or its script after it has asked about what it replaces. -/
theorem work_cases (parsed : parse invocation.arguments = .ok (.compile request))
    (tree : FileTree) :
    ((work invocation request tree).tree = tree ∧
      ∀ event ∈ (work invocation request tree).events, event.isWriting = false) ∨
    ∃ config output compilation front back,
      Delivers invocation request tree (work invocation request tree).tree config output
        compilation ∧
      (work invocation request tree).events =
        front ++ .written output compilation.script :: back ∧
      (∀ event ∈ front, event.isWriting = false) ∧ (∀ event ∈ back, event.isWriting = false) ∧
      (tree.Leads output → .question (overwriteQuestion output) ∈ front) := by
  rcases quiet_or_prepares invocation request tree with
    ⟨result, quiet⟩ | ⟨config, output, compilation, prepares⟩
  · exact .inl ⟨quiet.tree_eq, fun event membership =>
      Event.isWriting_eq_of_isIdle (quiet.isIdle event membership)⟩
  obtain ⟨first, last, -, -, worked⟩ := prepares.work_apply
  obtain ⟨before, asked, between, behind, seen, idleBefore, idleBetween, idleBehind, asking⟩ :=
    prepares.exists_events_eq
  have unwritten {events : List Event} (idle : ∀ event ∈ events, event.isIdle = true) :
      ∀ event ∈ events, event.isWriting = false :=
    fun event membership => Event.isWriting_eq_of_isIdle (idle event membership)
  have unwrittenAsked : ∀ event ∈ asked, event.isWriting = false := by
    rcases asking with ⟨-, rfl⟩ | ⟨-, rfl⟩
    · exact fun event => isWriting_eq_of_mem_consultation
    · exact nofun
  have writes := writes_writeScript compilation.script output (consentOf invocation request) tree
  rw [congrArg Outcome.tree worked, seen]
  cases wrote : (writeScript compilation.script output (consentOf invocation request) tree).result
    with
  | error failure =>
    refine .inl ⟨(writes.cases_of_error wrote).1, ?_⟩
    simp only [writing, List.append_nil, List.forall_mem_append]
    exact ⟨unwritten idleBefore, unwrittenAsked, unwritten idleBetween, unwritten idleBehind⟩
  | ok size =>
    obtain ⟨speakable, allowed, kept⟩ := writes.of_ok wrote
    refine .inr ⟨config, output, compilation, before ++ asked ++ between, behind,
      ⟨prepares, speakable, ?_, kept⟩, ?_, ?_, unwritten idleBehind, ?_⟩
    · intro leads
      rw [← overwrite_parse parsed]
      exact granted_of_answerOf (allowed leads)
    · simp only [writing, List.append_assoc, List.cons_append, List.nil_append]
    · simp only [List.forall_mem_append]
      exact ⟨⟨unwritten idleBefore, unwrittenAsked⟩, unwritten idleBetween⟩
    · intro leads
      rcases asking with ⟨-, rfl⟩ | ⟨free, -⟩
      · exact List.mem_append_left _
          (List.mem_append_right _ (question_mem_consultation_iff.mpr rfl))
      · exact absurd leads free

/-! ## What is left of a run -/

theorem run_eq_of_parse (parsed : parse invocation.arguments = .ok (.compile request)) :
    (run invocation tree).ending = .ofResult (compile invocation request tree).result ∧
      (run invocation tree).tree = (compile invocation request tree).tree := by
  unfold run
  rw [parsed]
  exact ⟨rfl, rfl⟩

/-- Whenever a run ends, nothing is written, or some of its script, and that after it has asked
about what it replaces. -/
theorem Becomes.tree_cases {outcome : Outcome Nat}
    (becomes : Becomes invocation request tree outcome)
    (parsed : parse invocation.arguments = .ok (.compile request)) :
    outcome.tree = tree ∨ ∃ config output compilation size,
      Delivers invocation request tree (work invocation request tree).tree config output
        compilation ∧
      tree.store output (compilation.script.take size) = .ok outcome.tree ∧
      (tree.Leads output → .question (overwriteQuestion output) ∈ outcome.events) := by
  rcases work_cases parsed tree with ⟨kept, unwritten⟩ |
    ⟨config, output, compilation, front, back, delivers, seen, before, behind, asked⟩
  · cases becomes with
    | peaceful | unheard | leaving => exact .inl kept
    | starting => exact .inl rfl
    | cancelled interrupted happened =>
      exact .inl (treeAfterEvents_eq_self (isWriting_eq_of_happened unwritten happened))
  · have whole : tree.store output (compilation.script.take compilation.script.length) =
        .ok (work invocation request tree).tree := by
      rw [List.take_length]
      exact delivers.kept
    have askedAll (leads : tree.Leads output) :
        .question (overwriteQuestion output) ∈ (work invocation request tree).events := by
      rw [seen]
      exact List.mem_append_left _ (asked leads)
    cases becomes with
    | peaceful | unheard | leaving =>
      exact .inr ⟨config, output, compilation, _, delivers, whole, askedAll⟩
    | starting => exact .inl rfl
    | cancelled interrupted happened =>
      rw [seen] at happened
      rcases written_of_happened before behind happened with unwritten | ⟨size, rest, rfl, last⟩
      · exact .inl (treeAfterEvents_eq_self unwritten)
      · obtain ⟨after, kept⟩ := exists_store_of_store delivers.kept (compilation.script.take size)
        refine .inr ⟨config, output, compilation, size, delivers, ?_, ?_⟩
        · rw [treeAfterEvents_of_written before last kept]
          exact kept
        · exact fun leads => List.mem_append_left _ (List.mem_append_left _ (asked leads))

end EventScript.CommandLine
