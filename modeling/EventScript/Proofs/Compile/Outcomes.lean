import EventScript.Proofs.Compile.Stages
import EventScript.Proofs.Compile.Writing
import EventScript.Proofs.Row.Verdict
import EventScript.Proofs.Script.Faults
import EventScript.Proofs.Source.Settling

/-!
# Ends of a compile

A script is made of a source or the source is refused. What a path leads to is found, or missing, or
out of reach of the system. Writing ends in one of five ways, of which only one changes the tree.
-/

namespace EventScript

theorem settles_compileRows {rows : List Row} (writable : Source.AreWritable rows)
    (config : Script.Config) :
    Settles [.validating, .encoding] (fun _ => True) (compileRows rows config) := by
  apply (Row.settles_toCommands writable).bind_append
  intro commands validated
  apply (Script.settles_encode validated config).bind
  intro script _
  exact .gives trivial

/-- What is made of a source that can be handed to the system and is not nested too deeply is a
script or a refusal. -/
theorem settles_compilationOf {levels : Option Nat} {tree : FileTree} {source : Path}
    (speakable : FileTree.unspeakable? source.toText = none)
    (flat : ∀ container, ¬Source.Nests levels tree source container) (config : Script.Config) :
    Settles [.reading, .parsing, .validating, .encoding] (fun _ => True)
      (compilationOf levels tree source config) := by
  have read := Source.settles_rowsOfFile speakable flat
  unfold compilationOf
  split
  · next failure failed =>
    rw [failed] at read
    obtain ⟨refusal, rfl⟩ := read.exists_refusal
    exact .refused (List.mem_append_left [Stage.validating, .encoding] read.stage_mem)
  · next format rows given =>
    rw [given] at read
    exact ((settles_compileRows read.of_eq_ok config).map _).mono
      (List.subset_append_right [Stage.reading, .parsing] _) fun _ => id

theorem compilationOf_of_nests {levels : Option Nat} {tree : FileTree} {source : Path}
    {container : Json.Container} (nests : Source.Nests levels tree source container)
    (config : Script.Config) :
    compilationOf levels tree source config = .error (.brokeDown (.nesting container)) := by
  unfold compilationOf
  rw [nests.rowsOfFile_eq]

namespace FileTree

/-- A path that can be handed to the system and leads to a file. -/
def HoldsFile (tree : FileTree) (path : Path) : Prop :=
  unspeakable? path.toText = none ∧ ∃ bytes, tree.content path = .ok bytes

/-- The system refuses even to look for what the path leads to. -/
def IsOutOfReach (tree : FileTree) (path : Path) : Prop :=
  unspeakable? path.toText = none ∧ tree.locate path = .error .nameTooLong

theorem Leads.not_isOutOfReach {tree : FileTree} {path : Path} (leads : tree.Leads path) :
    ¬tree.IsOutOfReach path := by
  obtain ⟨-, location, led, -⟩ := leads
  rintro ⟨-, beyond⟩
  cases led.symm.trans beyond

theorem HoldsFile.not_isOutOfReach {tree : FileTree} {path : Path} (holds : tree.HoldsFile path) :
    ¬tree.IsOutOfReach path := by
  obtain ⟨-, bytes, held⟩ := holds
  rintro ⟨-, beyond⟩
  unfold content at held
  rw [beyond] at held
  cases held

/-- The location that a write fills is where the path leads already, if anything is there. -/
theorem locate_of_locateTarget {tree : FileTree} {path : Path} {location : Location}
    (found : tree.locateTarget path = .ok location)
    (present : (tree.lookup location).isSome = true) : tree.locate path = .ok location := by
  obtain ⟨short, directory, front, name, parts, walked, inside, named, bounded, rfl, -⟩ :=
    locateTarget_eq_ok found
  unfold locate
  rw [short, parts, walk_append, walked]
  simp only [Bool.false_eq_true, if_false, Except.bind]
  exact walk_singleton inside named bounded present

/-- Storing changes only the location that it fills. -/
theorem locateTarget_of_store {tree after : FileTree} {path : Path} {bytes : Bytes}
    (kept : tree.store path bytes = .ok after) {location : Location}
    (changed : after.lookup location ≠ tree.lookup location) :
    tree.locateTarget path = .ok location := by
  obtain ⟨target, found, looked⟩ := (stored_of_store kept).lookup_eq
  by_cases same : location = target
  · rw [same]
    exact found
  · rw [looked, if_neg same] at changed
    exact absurd rfl changed

/-- The system looks wherever it takes a file. -/
theorem not_isOutOfReach_of_store {tree after : FileTree} {path : Path} {bytes : Bytes}
    (kept : tree.store path bytes = .ok after) : ¬tree.IsOutOfReach path := by
  obtain ⟨target, found, -⟩ := (stored_of_store kept).lookup_eq
  obtain ⟨short, directory, front, name, parts, walked, inside, named, bounded, -, -⟩ :=
    locateTarget_eq_ok found
  rintro ⟨-, beyond⟩
  unfold locate at beyond
  rw [short, parts, walk_append, walked] at beyond
  simp only [Bool.false_eq_true, if_false, Except.bind, walk, inside, Bool.not_true, if_neg named,
    if_neg (Nat.not_lt.mpr bounded)] at beyond
  split at beyond
  · cases beyond
  · cases beyond

end FileTree

namespace Job

open FileTree

variable {tree : FileTree} {path : Path}

/-- How looking for what a path leads to ends. -/
inductive Finds (tree : FileTree) (path : Path) : Except Failure (Option Node) → Prop
  | unspeakable {reason : Unspeakable} (refused : unspeakable? path.toText = some reason) :
    Finds tree path (.ok none)
  | outOfReach (beyond : tree.IsOutOfReach path) :
    Finds tree path (.error (.brokeDown (.pathTooLong path)))
  | missing {refusal : FileTree.Refusal} (speakable : unspeakable? path.toText = none)
    (stopped : tree.locate path = .error refusal) (near : refusal ≠ .nameTooLong) :
    Finds tree path (.ok none)
  | found {location : Location} (speakable : unspeakable? path.toText = none)
    (led : tree.locate path = .ok location) : Finds tree path (.ok (tree.lookup location))

theorem finds_find? (tree : FileTree) (path : Path) :
    ∃ result, Finds tree path result ∧ find? path tree = ⟨tree, [], result⟩ := by
  unfold find?
  cases speakable : unspeakable? path.toText with
  | some reason => exact ⟨.ok none, .unspeakable speakable, rfl⟩
  | none =>
    simp only [Option.isSome_none, Bool.false_eq_true, if_false, tree_bind]
    cases led : tree.locate path with
    | ok location => exact ⟨_, .found speakable led, rfl⟩
    | error refusal =>
      cases refusal with
      | nameTooLong => exact ⟨_, .outOfReach ⟨speakable, led⟩, rfl⟩
      | missing | isDirectory | notDirectory => exact ⟨_, .missing speakable led nofun, rfl⟩

theorem Finds.leads_iff {node : Option Node} (finds : Finds tree path (.ok node)) :
    tree.Leads path ↔ node.isSome = true := by
  cases finds with
  | unspeakable refused => simp [Leads, refused]
  | missing speakable stopped near => simp [Leads, stopped]
  | found speakable led => simp [Leads, speakable, led]

theorem Finds.isOutOfReach_iff {result : Except Failure (Option Node)}
    (finds : Finds tree path result) :
    tree.IsOutOfReach path ↔ result = .error (.brokeDown (.pathTooLong path)) := by
  cases finds with
  | unspeakable refused => simp [IsOutOfReach, refused]
  | outOfReach beyond => simp [beyond]
  | missing speakable stopped near => simp [IsOutOfReach, stopped, near]
  | found speakable led => simp [IsOutOfReach, led]

/-- How writing ends, depending on what is said to replacing an existing output. -/
inductive Writes (tree : FileTree) (path : Path) (script : Bytes)
    (answer : Except Breakdown Bool) : FileTree → Except Failure Nat → Prop
  | unspeakable {reason : Unspeakable} (refused : unspeakable? path.toText = some reason) :
    Writes tree path script answer tree (.error (.brokeDown (.unspeakablePath reason)))
  | outOfReach (beyond : tree.IsOutOfReach path) :
    Writes tree path script answer tree (.error (.brokeDown (.pathTooLong path)))
  | declined (leads : tree.Leads path) (denied : answer = .ok false) :
    Writes tree path script answer tree (.error (.refused (.declined path)))
  | unanswered {breakdown : Breakdown} (leads : tree.Leads path)
    (broke : answer = .error breakdown) :
    Writes tree path script answer tree (.error (.brokeDown breakdown))
  | unwritable {reason : FileTree.Refusal} (speakable : unspeakable? path.toText = none)
    (near : ¬tree.IsOutOfReach path) (allowed : tree.Leads path → answer = .ok true)
    (refused : tree.store path script = .error reason) :
    Writes tree path script answer tree (.error (.refused (.unwritable path reason)))
  | stored {after : FileTree} (speakable : unspeakable? path.toText = none)
    (near : ¬tree.IsOutOfReach path) (allowed : tree.Leads path → answer = .ok true)
    (kept : tree.store path script = .ok after) :
    Writes tree path script answer after (.ok script.length)

namespace Writes

variable {script : Bytes} {answer : Except Breakdown Bool} {after : FileTree}
  {result : Except Failure Nat}

theorem stage_eq {refusal : EventScript.Refusal}
    (writes : Writes tree path script answer after (.error (.refused refusal))) :
    refusal.stage = .writing := by
  cases writes with
  | declined | unwritable => rfl

/-- What is written may be written, and the system takes it. -/
theorem of_ok {size : Nat}
    (writes : Writes tree path script answer after result) (wrote : result = .ok size) :
    unspeakable? path.toText = none ∧ (tree.Leads path → answer = .ok true) ∧
      tree.store path script = .ok after := by
  cases writes with
  | unspeakable | outOfReach | declined | unanswered | unwritable => cases wrote
  | stored speakable _ allowed kept => exact ⟨speakable, allowed, kept⟩

theorem eq_of_unspeakable {reason : Unspeakable}
    (writes : Writes tree path script answer after result)
    (refused : unspeakable? path.toText = some reason) :
    after = tree ∧ result = .error (.brokeDown (.unspeakablePath reason)) := by
  cases writes with
  | unspeakable refused' =>
    cases refused.symm.trans refused'
    exact ⟨rfl, rfl⟩
  | outOfReach beyond => cases refused.symm.trans beyond.1
  | declined leads | unanswered leads => cases refused.symm.trans leads.1
  | unwritable speakable | stored speakable => cases refused.symm.trans speakable

theorem eq_of_isOutOfReach (writes : Writes tree path script answer after result)
    (beyond : tree.IsOutOfReach path) :
    after = tree ∧ result = .error (.brokeDown (.pathTooLong path)) := by
  cases writes with
  | unspeakable refused => cases beyond.1.symm.trans refused
  | outOfReach => exact ⟨rfl, rfl⟩
  | declined leads | unanswered leads => exact absurd beyond leads.not_isOutOfReach
  | unwritable _ near | stored _ near => exact absurd beyond near

/-- Without consent nothing is done to an output that exists. -/
theorem eq_of_denied (writes : Writes tree path script answer after result)
    (leads : tree.Leads path) (denied : answer = .ok false) :
    after = tree ∧ result = .error (.refused (.declined path)) := by
  cases writes with
  | unspeakable refused => cases leads.1.symm.trans refused
  | outOfReach beyond => exact absurd beyond leads.not_isOutOfReach
  | declined => exact ⟨rfl, rfl⟩
  | unanswered _ broke => cases broke.symm.trans denied
  | unwritable _ _ allowed refused | stored _ _ allowed kept =>
    cases (allowed leads).symm.trans denied

/-- Where the answer breaks down, so does the write. -/
theorem eq_of_unanswered {breakdown : Breakdown}
    (writes : Writes tree path script answer after result) (leads : tree.Leads path)
    (broke : answer = .error breakdown) :
    after = tree ∧ result = .error (.brokeDown breakdown) := by
  cases writes with
  | unspeakable refused => cases leads.1.symm.trans refused
  | outOfReach beyond => exact absurd beyond leads.not_isOutOfReach
  | declined _ denied => cases broke.symm.trans denied
  | unanswered _ broke' =>
    cases broke.symm.trans broke'
    exact ⟨rfl, rfl⟩
  | unwritable _ _ allowed refused | stored _ _ allowed kept =>
    cases (allowed leads).symm.trans broke

theorem eq_of_unwritable {reason : FileTree.Refusal}
    (writes : Writes tree path script answer after result)
    (speakable : unspeakable? path.toText = none) (near : ¬tree.IsOutOfReach path)
    (allowed : tree.Leads path → answer = .ok true)
    (refused : tree.store path script = .error reason) :
    after = tree ∧ result = .error (.refused (.unwritable path reason)) := by
  cases writes with
  | unspeakable unspoken => cases speakable.symm.trans unspoken
  | outOfReach beyond => exact absurd beyond near
  | declined leads denied => cases (allowed leads).symm.trans denied
  | unanswered leads broke => cases (allowed leads).symm.trans broke
  | unwritable _ _ _ refused' =>
    cases refused.symm.trans refused'
    exact ⟨rfl, rfl⟩
  | stored _ _ _ kept => cases refused.symm.trans kept

/-- Nothing stands against a store that the system takes and that is allowed. -/
theorem eq_of_store {stored : FileTree} (writes : Writes tree path script answer after result)
    (speakable : unspeakable? path.toText = none) (near : ¬tree.IsOutOfReach path)
    (allowed : tree.Leads path → answer = .ok true) (kept : tree.store path script = .ok stored) :
    after = stored ∧ result = .ok script.length := by
  cases writes with
  | unspeakable refused => cases speakable.symm.trans refused
  | outOfReach beyond => exact absurd beyond near
  | declined leads denied => cases (allowed leads).symm.trans denied
  | unanswered leads broke => cases (allowed leads).symm.trans broke
  | unwritable _ _ _ refused => cases kept.symm.trans refused
  | stored _ _ _ kept' =>
    cases kept.symm.trans kept'
    exact ⟨rfl, rfl⟩

end Writes

theorem store_apply_of_speakable (speakable : unspeakable? path.toText = none) (script : Bytes) :
    store path script tree =
      match tree.store path script with
      | .error reason => ⟨tree, [], .error (.refused (.unwritable path reason))⟩
      | .ok after => ⟨after, [.written path script], .ok ()⟩ := by
  unfold store
  simp only [speakable, tree_bind]
  cases tree.store path script <;> rfl

theorem writes_storeAndTell {script : Bytes} {answer : Except Breakdown Bool}
    (near : ¬tree.IsOutOfReach path) (allowed : tree.Leads path → answer = .ok true) :
    Writes tree path script answer (storeAndTell script path tree).tree
      (storeAndTell script path tree).result := by
  unfold storeAndTell
  cases speakable : unspeakable? path.toText with
  | some reason =>
    have ran : store path script tree =
        ⟨tree, [], .error (.brokeDown (.unspeakablePath reason))⟩ := by
      unfold store
      rw [speakable]
      rfl
    rw [bind_of_error ran]
    exact .unspeakable speakable
  | none =>
    have ran := @store_apply_of_speakable tree path speakable script
    cases kept : tree.store path script with
    | error reason =>
      rw [kept] at ran
      rw [bind_of_error ran]
      exact .unwritable speakable near allowed kept
    | ok after =>
      rw [kept] at ran
      rw [bind_of_ok ran]
      exact .stored speakable near allowed kept

theorem writes_writeScript (script : Bytes) (path : Path) (consent : Option Consent)
    (tree : FileTree) :
    Writes tree path script (answerOf path consent) (writeScript script path consent tree).tree
      (writeScript script path consent tree).result := by
  obtain ⟨result, finds, looked⟩ := finds_find? tree path
  rw [writeScript_eq]
  cases result with
  | error failure =>
    rw [bind_of_error looked]
    cases finds with
    | outOfReach beyond => exact .outOfReach beyond
  | ok node =>
    have near : ¬tree.IsOutOfReach path := by
      rw [finds.isOutOfReach_iff]
      exact nofun
    rw [bind_of_ok looked]
    cases node with
    | none =>
      have free : ¬tree.Leads path := by
        rw [finds.leads_iff]
        exact nofun
      exact writes_storeAndTell near fun leads => absurd leads free
    | some node =>
      obtain ⟨told, -, asking⟩ := askConsent_apply path consent tree
      simp only [Option.isSome_some, if_true]
      have leads : tree.Leads path := finds.leads_iff.mpr rfl
      rcases given : answerOf path consent with breakdown | (- | -)
      · rw [given] at asking
        rw [bind_of_error asking]
        exact .unanswered leads rfl
      · rw [given] at asking
        rw [bind_of_error asking]
        exact .declined leads rfl
      · rw [given] at asking
        rw [bind_of_ok asking]
        exact writes_storeAndTell near fun _ => rfl

end Job

end EventScript
