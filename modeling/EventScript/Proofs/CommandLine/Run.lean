import EventScript.CommandLine.Run
import EventScript.Proofs.Compile.AllOrNothing
import EventScript.Proofs.Compile.Outcomes

/-!
# How runs work

A run that is left in peace either stops before it compiles, and then has asked nobody and changed
nothing, or it ends as its compile does.
-/

namespace EventScript.CommandLine

open FileTree Job

variable {invocation : Invocation} {request : Request} {tree : FileTree} {console : Console}

/-- What comes of showing a line, besides the line. -/
def showing (console : Console) (markup : Text) : Except Failure Unit :=
  match console.line markup with
  | .error fault => .error (.brokeDown (.console fault))
  | .ok _ => .ok ()

/-- What comes of showing the banner. -/
def showingBanner (console : Console) (stamp link : Text) : Except Failure Unit := do
  showing console (title stamp)
  unless link = [] do showing console (Console.styled "dim yellow" (console.escape link))

/-- The run gets to its compile, with these settings and this output. -/
structure Starts (invocation : Invocation) (request : Request) (tree : FileTree)
    (config : Script.Config) (output : Path) : Prop where
  configured : Script.Config.load none invocation.stampVariable = .ok config
  titled : showingBanner invocation.console config.stamp invocation.projectLink = .ok ()
  holds : tree.HoldsFile (Path.ofText request.source)
  resolved : Output.path (Path.ofText request.source) request.output = .ok output

/-- How a run ends that does not get to its compile. -/
inductive Stops (invocation : Invocation) (request : Request) (tree : FileTree) :
    Except Failure Nat → Prop
  | misconfigured {fault : Script.StampFault}
    (refused : Script.Config.load none invocation.stampVariable = .error fault) :
    Stops invocation request tree (.ok 1)
  | untitled {config : Script.Config} {failure : Failure}
    (configured : Script.Config.load none invocation.stampVariable = .ok config)
    (refused : showingBanner invocation.console config.stamp invocation.projectLink =
      .error failure) :
    Stops invocation request tree (.error failure)
  | outOfReach {config : Script.Config}
    (configured : Script.Config.load none invocation.stampVariable = .ok config)
    (titled : showingBanner invocation.console config.stamp invocation.projectLink = .ok ())
    (beyond : tree.IsOutOfReach (Path.ofText request.source)) :
    Stops invocation request tree (.error (.brokeDown (.pathTooLong (Path.ofText request.source))))
  | sourceless {config : Script.Config}
    (configured : Script.Config.load none invocation.stampVariable = .ok config)
    (titled : showingBanner invocation.console config.stamp invocation.projectLink = .ok ())
    (near : ¬tree.IsOutOfReach (Path.ofText request.source))
    (missing : ¬tree.HoldsFile (Path.ofText request.source)) :
    Stops invocation request tree (.ok 1)
  | unresolved {config : Script.Config} {failure : Failure}
    (configured : Script.Config.load none invocation.stampVariable = .ok config)
    (titled : showingBanner invocation.console config.stamp invocation.projectLink = .ok ())
    (holds : tree.HoldsFile (Path.ofText request.source))
    (refused : Output.path (Path.ofText request.source) request.output = .error failure) :
    Stops invocation request tree (.error failure)

/-- What a run makes of the result of its compile. -/
def conclude (console : Console) : Except Failure Summary → Except Failure Nat
  | .ok _ => do
    showing console (Console.styled "dim cyan" "Script conversion done!")
    return 0
  | .error (.refused _) => .ok 1
  | .error failure => .error failure

/-! ## Steps of a run -/

theorem quiet_shown (t : Text) : Quiet (Job.emit [.shown t]) tree (.ok ()) := by
  apply quiet_emit
  intro event membership
  rw [List.mem_singleton.mp membership]
  rfl

theorem quiet_showLine (console : Console) (markup : Text) :
    Quiet (showLine console markup) tree (showing console markup) := by
  unfold showLine showing
  cases console.line markup with
  | error fault => exact quiet_fail _
  | ok shown => exact quiet_shown shown

theorem quiet_showBanner (console : Console) (stamp link : Text) :
    Quiet (showBanner console stamp link) tree (showingBanner console stamp link) := by
  have closing : Quiet (sayLine []) tree (.ok ()) := quiet_shown _
  apply (quiet_showLine console (title stamp)).bind_result
  intro _
  by_cases unlinked : link = []
  · rw [if_pos unlinked, if_pos unlinked]
    exact closing
  · rw [if_neg unlinked, if_neg unlinked]
    have linked := @quiet_showLine tree console (Console.styled "dim yellow" (console.escape link))
    cases said : showing console (Console.styled "dim yellow" (console.escape link)) with
    | error failure => exact (said ▸ linked).bind_error _
    | ok shown => exact (said ▸ linked).bind closing

theorem quiet_complain (message : Text) : Quiet (complain message) tree (.ok 1) :=
  (quiet_shown _).bind (quiet_pure 1)

theorem quiet_reportSummary (console : Console) (summary : Summary) :
    Quiet (reportSummary console summary) tree (conclude console (.ok summary)) :=
  (quiet_shown _).bind ((quiet_shown _).bind ((quiet_shown _).bind ((quiet_shown _).bind
    ((quiet_shown _).bind ((quiet_showLine console _).bind_result fun _ => quiet_pure 0)))))

theorem quiet_isFile_of_isOutOfReach {path : Path} (beyond : tree.IsOutOfReach path) :
    Quiet (isFile path) tree (.error (.brokeDown (.pathTooLong path))) := by
  obtain ⟨result, finds, looked⟩ := finds_find? tree path
  obtain rfl := finds.isOutOfReach_iff.mp beyond
  have quiet : Quiet (Job.find? path) tree (.error (.brokeDown (.pathTooLong path))) :=
    ⟨by rw [looked], by rw [looked], by rw [looked]; exact nofun⟩
  exact quiet.bind_error _

/-- Within reach of the system it is found out whether there is a file. -/
theorem exists_quiet_isFile {path : Path} (near : ¬tree.IsOutOfReach path) :
    ∃ found, (found = true ↔ tree.HoldsFile path) ∧ Quiet (isFile path) tree (.ok found) := by
  obtain ⟨result, finds, looked⟩ := finds_find? tree path
  have quiet : Quiet (Job.find? path) tree result :=
    ⟨by rw [looked], by rw [looked], by rw [looked]; exact nofun⟩
  unfold isFile
  cases finds with
  | outOfReach beyond => exact absurd beyond near
  | unspeakable refused =>
    exact ⟨false, by simp [HoldsFile, refused], quiet.bind (quiet_pure false)⟩
  | missing speakable stopped near =>
    exact ⟨false, by simp [HoldsFile, content, stopped], quiet.bind (quiet_pure false)⟩
  | @found location speakable led =>
    have holds_iff : tree.HoldsFile path ↔ ∃ bytes, tree.lookup location = some (.file bytes) := by
      simp only [HoldsFile, speakable, true_and, content, led]
      rcases tree.lookup location with - | (- | bytes) <;> simp
    rw [holds_iff]
    rcases held : tree.lookup location with - | (- | bytes)
    · rw [held] at quiet
      exact ⟨false, by simp, quiet.bind (quiet_pure false)⟩
    · rw [held] at quiet
      exact ⟨false, by simp, quiet.bind (quiet_pure false)⟩
    · rw [held] at quiet
      exact ⟨true, by simp, quiet.bind (quiet_pure true)⟩

theorem quiet_isFile_of_holdsFile {path : Path} (holds : tree.HoldsFile path) :
    Quiet (isFile path) tree (.ok true) := by
  obtain ⟨found, found_iff, looked⟩ := exists_quiet_isFile holds.not_isOutOfReach
  rwa [found_iff.mpr holds] at looked

theorem quiet_conclusion (console : Console) (result : Except Failure Summary) :
    Quiet (match result with
      | .ok summary => reportSummary console summary
      | .error (.refused refusal) => complain refusal.message
      | .error failure => Job.fail failure) tree (conclude console result) := by
  rcases result with (refusal | breakdown) | summary
  · exact quiet_complain _
  · exact quiet_fail _
  · exact quiet_reportSummary console summary

/-- The job carries out another one, with steps around it that only show something. -/
def Surrounds (job : Job Nat) (tree : FileTree) (inner : Job Summary)
    (result : Except Failure Nat) : Prop :=
  ∃ before after, (∀ event ∈ before ++ after, event.isIdle = true) ∧
    job tree = ⟨(inner tree).tree, before ++ ((inner tree).events ++ after), result⟩

theorem Surrounds.of_quiet {α : Type} {first : Job α} {a : α} {next : α → Job Nat}
    {inner : Job Summary} {result : Except Failure Nat} (quiet : first.Quiet tree (.ok a))
    (rest : Surrounds (next a) tree inner result) :
    Surrounds (first >>= next) tree inner result := by
  obtain ⟨before, after, idle, ran⟩ := rest
  refine ⟨(first tree).events ++ before, after, ?_, ?_⟩
  · intro event membership
    rw [List.append_assoc] at membership
    rcases List.mem_append.mp membership with early | late
    · exact quiet.isIdle event early
    · exact idle event late
  · rw [quiet.bind_apply, ran, List.append_assoc]

theorem Surrounds.tree_eq {job : Job Nat} {inner : Job Summary} {result : Except Failure Nat}
    (surrounds : Surrounds job tree inner result) : (job tree).tree = (inner tree).tree := by
  obtain ⟨before, after, -, ran⟩ := surrounds
  rw [ran]

theorem Surrounds.result_eq {job : Job Nat} {inner : Job Summary} {result : Except Failure Nat}
    (surrounds : Surrounds job tree inner result) : (job tree).result = result := by
  obtain ⟨before, after, -, ran⟩ := surrounds
  rw [ran]

theorem surrounds_attempt (console : Console) (inner : Job Summary) :
    Surrounds (do
      match ← inner.attempt with
      | .ok summary => reportSummary console summary
      | .error (.refused refusal) => complain refusal.message
      | .error failure => Job.fail failure) tree inner
      (conclude console (inner tree).result) := by
  have ending := @quiet_conclusion (inner tree).tree console (inner tree).result
  refine ⟨[], _, ending.isIdle, ?_⟩
  rw [Job.bind_apply]
  simp only [attempt]
  rw [ending.tree_eq, ending.result_eq]
  rfl

/-! ## Whole runs -/

/-- Whoever decides for a run about an output that exists. -/
def consentOf (invocation : Invocation) (request : Request) : Option Consent :=
  some (consent invocation.console request.overwrite invocation.typed)

/-- The compile of a run. -/
def innerCompile (invocation : Invocation) (request : Request) (config : Script.Config)
    (output : Path) : Job Summary :=
  compileFile invocation.levels (Path.ofText request.source) output config
    (consentOf invocation request) true

/-- What a run does after it has shown its banner. -/
def afterBanner (invocation : Invocation) (request : Request) (config : Script.Config) :
    Job Nat := do
  let source := Path.ofText request.source
  if !(← isFile source) then
    complain (.concat ["Input file '", source.toText, "' does not exist."])
  else
    let output ← Job.ofExcept (Output.path source request.output)
    match ← (innerCompile invocation request config output).attempt with
    | .ok summary => reportSummary invocation.console summary
    | .error (.refused refusal) => complain refusal.message
    | .error failure => Job.fail failure

theorem work_eq {config : Script.Config}
    (configured : Script.Config.load none invocation.stampVariable = .ok config) :
    work invocation request =
      showBanner invocation.console config.stamp invocation.projectLink >>= fun _ =>
        afterBanner invocation request config := by
  unfold work
  rw [configured]
  rfl

theorem Stops.quiet {result : Except Failure Nat} (stops : Stops invocation request tree result) :
    Quiet (work invocation request) tree result := by
  have shown (config : Script.Config) := @quiet_showBanner tree invocation.console config.stamp
    invocation.projectLink
  cases stops with
  | misconfigured refused =>
    unfold work
    rw [refused]
    exact quiet_complain _
  | untitled configured refused =>
    rw [work_eq configured]
    exact (refused ▸ shown _).bind_error _
  | outOfReach configured titled beyond =>
    rw [work_eq configured]
    apply (titled ▸ shown _).bind
    exact (quiet_isFile_of_isOutOfReach beyond).bind_error _
  | sourceless configured titled near missing =>
    obtain ⟨found, found_iff, looked⟩ := exists_quiet_isFile near
    rw [← found_iff, Bool.not_eq_true] at missing
    rw [work_eq configured]
    apply (titled ▸ shown _).bind
    apply looked.bind
    rw [missing]
    exact quiet_complain _
  | unresolved configured titled holds refused =>
    rw [work_eq configured]
    apply (titled ▸ shown _).bind
    apply (quiet_isFile_of_holdsFile holds).bind
    rw [refused]
    exact quiet_fail _

/-- A run that gets to its compile ends as its compile does. -/
theorem Starts.surrounds {config : Script.Config} {output : Path}
    (starts : Starts invocation request tree config output) :
    let inner := innerCompile invocation request config output
    Surrounds (work invocation request) tree inner
      (conclude invocation.console (inner tree).result) := by
  have shown := @quiet_showBanner tree invocation.console config.stamp invocation.projectLink
  intro inner
  rw [work_eq starts.configured]
  apply Surrounds.of_quiet (starts.titled ▸ shown)
  apply Surrounds.of_quiet (quiet_isFile_of_holdsFile starts.holds)
  rw [starts.resolved]
  apply Surrounds.of_quiet (quiet_ofExcept _)
  exact surrounds_attempt invocation.console inner

theorem stops_or_starts (invocation : Invocation) (request : Request) (tree : FileTree) :
    (∃ result, Stops invocation request tree result) ∨
      ∃ config output, Starts invocation request tree config output := by
  cases configured : Script.Config.load none invocation.stampVariable with
  | error fault => exact .inl ⟨_, .misconfigured configured⟩
  | ok config =>
    cases titled : showingBanner invocation.console config.stamp invocation.projectLink with
    | error failure => exact .inl ⟨_, .untitled configured titled⟩
    | ok shown =>
      by_cases beyond : tree.IsOutOfReach (Path.ofText request.source)
      · exact .inl ⟨_, .outOfReach configured titled beyond⟩
      by_cases holds : tree.HoldsFile (Path.ofText request.source)
      · cases resolved : Output.path (Path.ofText request.source) request.output with
        | error failure => exact .inl ⟨_, .unresolved configured titled holds resolved⟩
        | ok output => exact .inr ⟨config, output, configured, titled, holds, resolved⟩
      · exact .inl ⟨_, .sourceless configured titled beyond holds⟩

/-- The run has its script ready, with nothing left to do but to write it. -/
structure Prepares (invocation : Invocation) (request : Request) (tree : FileTree)
    (config : Script.Config) (output : Path) (compilation : Compilation) : Prop where
  starts : Starts invocation request tree config output
  made : compilation.IsOf invocation.levels tree (Path.ofText request.source) config

/-- Once its script is finished, a run ends as writing the script does. -/
theorem Prepares.work_apply {config : Script.Config} {output : Path} {compilation : Compilation}
    (prepares : Prepares invocation request tree config output compilation) :
    let wrote := writeScript compilation.script output (consentOf invocation request) tree
    ∃ before after, (∀ event ∈ before, event.isIdle = true) ∧
      (∀ event ∈ after, event.isIdle = true) ∧
      work invocation request tree =
        ⟨wrote.tree, before ++ (wrote.events ++ after),
          conclude invocation.console (wrote.result.map fun size =>
            ⟨Path.ofText request.source, output, compilation.rows.length,
              compilation.rows.length, size⟩)⟩ := by
  obtain ⟨starts, made⟩ := prepares
  obtain ⟨first, last, idle, ran⟩ := starts.surrounds
  obtain ⟨before, after, idleBefore, idleAfter, compiled⟩ := compileFile_apply made output
    (consentOf invocation request) true
  rw [List.forall_mem_append] at idle
  refine ⟨first ++ before, after ++ last, ?_, ?_, ?_⟩
  · exact List.forall_mem_append.mpr ⟨idle.1, idleBefore⟩
  · exact List.forall_mem_append.mpr ⟨idleAfter, idle.2⟩
  · rw [ran]
    unfold innerCompile
    rw [compiled]
    simp only [List.append_assoc]

/-- What such a run leaves, and how it ends, depends on the write alone. -/
theorem Prepares.exists_writes {config : Script.Config} {output : Path} {compilation : Compilation}
    (prepares : Prepares invocation request tree config output compilation) :
    ∃ after result, (work invocation request tree).tree = after ∧
      (work invocation request tree).result = conclude invocation.console (result.map fun size =>
        ⟨Path.ofText request.source, output, compilation.rows.length, compilation.rows.length,
          size⟩) ∧
      Writes tree output compilation.script (answerOf output (consentOf invocation request))
        after result := by
  obtain ⟨before, behind, -, -, worked⟩ := prepares.work_apply
  refine ⟨_, _, ?_, ?_, writes_writeScript compilation.script output _ tree⟩
  · rw [worked]
  · rw [worked]

end EventScript.CommandLine
