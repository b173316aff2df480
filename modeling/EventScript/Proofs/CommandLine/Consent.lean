import EventScript.Proofs.CommandLine.Delivery
import EventScript.Proofs.Compile.Preservation

/-!
# Consent over many runs

A run changes what exists only at its own output, and only by consent: a flag among its arguments,
or the answer to its prompt. What one run keeps to, a sequence of runs keeps to.
-/

namespace EventScript.CommandLine

open FileTree Job

variable {invocation : Invocation} {request : Request} {tree : FileTree}

/-- The tree that runs leave, each of them starting from what the one before has left. -/
def treeAfter (invocations : List Invocation) (tree : FileTree) : FileTree :=
  invocations.foldl (fun before invocation => (run invocation before).tree) tree

/-- The run may replace what is at the location: its output leads there, it has asked about it, and
a flag or the answer to its prompt allows it. -/
def MayReplace (invocation : Invocation) (tree : FileTree) (location : Location) : Prop :=
  ∃ request output, parse invocation.arguments = .ok (.compile request) ∧
    Output.path (Path.ofText request.source) request.output = .ok output ∧
    tree.locate output = .ok location ∧
    .question (overwriteQuestion output) ∈ (compile invocation request tree).events ∧
    (IsGiven invocation.arguments .yes ∨ Answers invocation.typed (.ok true))

theorem exists_parse_of_run {location : Location}
    (changed : (run invocation tree).tree.lookup location ≠ tree.lookup location) :
    ∃ request, parse invocation.arguments = .ok (.compile request) := by
  unfold run at changed
  split at changed
  · exact absurd rfl changed
  · exact absurd rfl changed
  · exact absurd rfl changed
  · next request parsed => exact ⟨request, parsed⟩

/-- What a run has changed it was allowed to, wherever it was interrupted. -/
theorem mayReplace_of_run {location : Location} {node : Node}
    (existed : tree.lookup location = some node)
    (changed : (run invocation tree).tree.lookup location ≠ some node) :
    MayReplace invocation tree location := by
  have present : (tree.lookup location).isSome = true := by
    rw [existed]
    rfl
  rw [← existed] at changed
  obtain ⟨request, parsed⟩ := exists_parse_of_run changed
  rw [(run_eq_of_parse parsed).2] at changed
  rcases (becomes_compile invocation request tree).tree_cases parsed with
    kept | ⟨config, output, compilation, size, delivers, stored, asked⟩
  · rw [kept] at changed
    exact absurd rfl changed
  · have led := locate_of_locateTarget (locateTarget_of_store stored changed) present
    have leads : tree.Leads output := ⟨delivers.speakable, location, led, present⟩
    exact ⟨request, output, parsed, delivers.prepares.starts.resolved, led, asked leads,
      delivers.allowed leads⟩

/-- What runs have changed one of them was allowed to. -/
theorem mayReplace_of_treeAfter {invocations : List Invocation} {location : Location} {node : Node}
    (existed : tree.lookup location = some node)
    (changed : (treeAfter invocations tree).lookup location ≠ some node) :
    ∃ earlier invocation later, invocations = earlier ++ invocation :: later ∧
      MayReplace invocation (treeAfter earlier tree) location := by
  induction invocations generalizing tree with
  | nil => exact absurd existed changed
  | cons first rest ih =>
    by_cases kept : (run first tree).tree.lookup location = some node
    · obtain ⟨earlier, invocation, later, rfl, allowed⟩ := ih kept changed
      exact ⟨first :: earlier, invocation, later, rfl, allowed⟩
    · exact ⟨[], first, rest, rfl, mayReplace_of_run existed kept⟩

theorem Prepares.output_eq {config other : Script.Config} {output target : Path}
    {compilation made : Compilation}
    (prepares : Prepares invocation request tree config output compilation)
    (also : Prepares invocation request tree other target made) : output = target :=
  Except.ok.inj (prepares.starts.resolved.symm.trans also.starts.resolved)

/-- A run whose prompt is answered with no is refused and changes nothing. -/
theorem run_of_denied {message : Text}
    (parsed : parse invocation.arguments = .ok (.compile request))
    (unforced : ¬IsGiven invocation.arguments .yes)
    (asked : .question message ∈ (compile invocation request tree).events)
    (denied : Answers invocation.typed (.ok false)) :
    (run invocation tree).tree = tree ∧
      (invocation.console.Lawful → invocation.interruption = none →
        (run invocation tree).ending = .exit 1) := by
  have becomes := becomes_compile invocation request tree
  obtain ⟨config, output, compilation, prepares, -, leads⟩ :=
    question_mem_work_iff.mp (becomes.question_mem asked)
  rw [(run_eq_of_parse parsed).1, (run_eq_of_parse parsed).2]
  constructor
  · rcases becomes.tree_cases parsed with kept | ⟨_, target, _, _, delivers, -, -⟩
    · exact kept
    · rw [prepares.output_eq delivers.prepares] at leads
      rcases delivers.allowed leads with forced | answered
      · exact absurd forced unforced
      · cases answered.unique denied
  · intro lawful undisturbed
    have refused : answerOf output (consentOf invocation request) = .ok false :=
      (answerOf_iff lawful parsed).mpr (.inr ⟨unforced, denied⟩)
    obtain ⟨after, result, -, ended, writes⟩ := prepares.exists_writes
    rw [compile_of_undisturbed undisturbed, ended, (writes.eq_of_denied leads refused).2]
    rfl

/-- Over any sequence of runs, nothing that exists is changed without consent. The prompt is asked
until an item of the input decides it, and an answer of no ends the run with the tree as it was. -/
theorem run_consent (earlier : List Invocation) (tree : FileTree) :
    let before := treeAfter earlier tree
    (∀ invocation location node, before.lookup location = some node →
      (run invocation before).tree.lookup location ≠ some node →
      MayReplace invocation before location) ∧
    (∀ location node, tree.lookup location = some node → before.lookup location ≠ some node →
      ∃ first invocation rest, earlier = first ++ invocation :: rest ∧
        MayReplace invocation (treeAfter first tree) location) ∧
    (∀ prompt typed, ∃ asked item rest closing, typed ++ [.finished] = asked ++ item :: rest ∧
      (∀ other ∈ asked, ∀ verdict, ¬other.Decides verdict) ∧
      item.Decides (answerFrom prompt typed).answer ∧ closing ∈ closings ∧
      (answerFrom prompt typed).events =
        asked.flatMap (fun _ => repetition prompt) ++ .shown prompt :: closing) ∧
    (∀ prompt typed answer, (answerFrom prompt typed).answer = answer ↔ Answers typed answer) ∧
    (∀ invocation request message, parse invocation.arguments = .ok (.compile request) →
      ¬IsGiven invocation.arguments .yes →
      .question message ∈ (compile invocation request before).events →
      Answers invocation.typed (.ok false) →
      (run invocation before).tree = before ∧
        (invocation.console.Lawful → invocation.interruption = none →
          (run invocation before).ending = .exit 1)) := by
  refine ⟨?_, ?_, ?_, ?_, ?_⟩
  · intro invocation location node existed changed
    exact mayReplace_of_run existed changed
  · intro location node existed changed
    exact mayReplace_of_treeAfter existed changed
  · exact answerFrom_eq
  · intro prompt typed answer
    exact answer_answerFrom_iff
  · intro invocation request message parsed unforced asked denied
    exact run_of_denied parsed unforced asked denied

/-- The sample table next to an older script. -/
def olderTree : FileTree :=
  sampleTree.insert [encodeName "a.sdf"] (.file [1])

theorem olderTree_holds : Source.Holds olderTree (Path.ofText "a.csv") sampleTable where
  valid := sampleTree_holds.valid
  nonempty := sampleTree_holds.nonempty
  compilable := sampleTree_holds.compilable
  fits := sampleTree_holds.fits
  format := sampleTree_holds.format
  content := ⟨true, rfl⟩

/-- A console that leaves out what stands in brackets. -/
def outsideBrackets (inside : Bool) : Text → Text
  | [] => []
  | c :: rest =>
    if c = .ofChar '[' then outsideBrackets true rest
    else if c = .ofChar ']' then outsideBrackets false rest
    else if inside then outsideBrackets true rest
    else c :: outsideBrackets false rest

def bareConsole : Console where
  line markup := .ok (outsideBrackets false markup ++ "\n")
  question markup := .ok (outsideBrackets false markup ++ " [y/n] (y): ")
  escape := id

theorem bareConsole_lawful : bareConsole.Lawful where
  shows_plain _ _ _ _ := ⟨_, rfl⟩
  shows_escaped _ _ _ := ⟨_, rfl⟩
  asks_escaped _ _ _ := ⟨_, rfl⟩

/-- A run for the sample table whose prompt is answered at the second attempt. -/
def secondThoughts (answer : Text) : Invocation where
  arguments := ["a.csv"]
  typed := [.line "perhaps\n", .line answer]
  console := bareConsole
  time := []

theorem parse_secondThoughts (answer : Text) :
    parse (secondThoughts answer).arguments = .ok (.compile ⟨"a.csv", none, false, false⟩) :=
  Except.eq_ok_of_toOption (show (parse ["a.csv"]).toOption = _ by decide +kernel)

theorem starts_secondThoughts (answer : Text) :
    Starts (secondThoughts answer) ⟨"a.csv", none, false, false⟩ olderTree
      ⟨"0.1.0", Script.magic⟩ (Path.ofText "a.sdf") where
  configured := rfl
  titled := rfl
  holds := ⟨rfl, _, rfl⟩
  resolved := Except.eq_ok_of_toOption (by decide +kernel)

theorem answers_secondThoughts {answer : Text} {granted : Bool}
    (said : verdict? (withoutFeed answer) = some granted) :
    Answers (secondThoughts answer).typed (.ok granted) := by
  refine ⟨[.line "perhaps\n"], .line answer, [.finished], rfl, ?_, ?_⟩
  · intro other membership verdict decides
    rw [List.mem_singleton.mp membership] at decides
    obtain ⟨granted, -, decided⟩ := decides_line_iff.mp decides
    have unclear : verdict? (withoutFeed "perhaps\n") = none := by decide
    cases unclear.symm.trans decided
  · exact decides_line_iff.mpr ⟨granted, rfl, said⟩

theorem run_consent_secondThoughts :
    ((run (secondThoughts "Y\n") olderTree).tree.lookup [encodeName "a.sdf"] ≠ some (.file [1]) ∧
      MayReplace (secondThoughts "Y\n") olderTree [encodeName "a.sdf"]) ∧
    (run (secondThoughts "n\n") olderTree).tree = olderTree ∧
      (run (secondThoughts "n\n") olderTree).ending = .exit 1 := by
  obtain ⟨replacing, -, -, -, denying⟩ := run_consent [] olderTree
  have leads : olderTree.Leads (Path.ofText "a.sdf") := ⟨rfl, [encodeName "a.sdf"], rfl, rfl⟩
  have loaded : Script.Config.load none none = .ok ⟨"0.1.0", Script.magic⟩ := rfl
  obtain ⟨compilation, parts, made, -, decoded, spells⟩ :=
    olderTree_holds.exists_isOf (some Json.usualLevels) loaded
  have prepares (answer : Text) : Prepares (secondThoughts answer) ⟨"a.csv", none, false, false⟩
      olderTree ⟨"0.1.0", Script.magic⟩ (Path.ofText "a.sdf") compilation :=
    ⟨starts_secondThoughts answer, made⟩
  constructor
  · have delivers : Delivers (secondThoughts "Y\n") ⟨"a.csv", none, false, false⟩ olderTree
        (olderTree.insert [encodeName "a.sdf"] (.file compilation.script))
        ⟨"0.1.0", Script.magic⟩ (Path.ofText "a.sdf") compilation :=
      ⟨prepares _, rfl, fun _ => .inr (answers_secondThoughts rfl), rfl⟩
    have empty : (Script.decodeStamped? "0.1.0" [1]).map (·.commands.length) = some 0 := by
      decide +kernel
    have changed : (run (secondThoughts "Y\n") olderTree).tree.lookup [encodeName "a.sdf"] ≠
        some (.file [1]) := by
      rw [(run_eq_of_parse (parse_secondThoughts _)).2, compile_of_undisturbed rfl,
        (delivers.work_eq bareConsole_lawful (parse_secondThoughts _)).1,
        lookup_insert _ (List.cons_ne_nil _ _), if_pos rfl]
      intro same
      rw [Node.file.inj (Option.some.inj same)] at decoded
      rw [decoded, Option.map_some, ← spells.length_eq] at empty
      cases empty
    exact ⟨changed, replacing _ _ _ rfl changed⟩
  · have asked : .question (overwriteQuestion (Path.ofText "a.sdf")) ∈
        (compile (secondThoughts "n\n") ⟨"a.csv", none, false, false⟩ olderTree).events := by
      rw [compile_of_undisturbed rfl]
      exact question_mem_work_iff.mpr ⟨_, _, _, prepares _, rfl, leads⟩
    have unforced : ¬IsGiven (secondThoughts "n\n").arguments .yes := by
      rw [← overwrite_parse (parse_secondThoughts "n\n")]
      exact Bool.false_ne_true
    obtain ⟨kept, refused⟩ := denying _ _ _ (parse_secondThoughts "n\n") unforced asked
      (answers_secondThoughts rfl)
    exact ⟨kept, refused bareConsole_lawful rfl⟩

end EventScript.CommandLine
