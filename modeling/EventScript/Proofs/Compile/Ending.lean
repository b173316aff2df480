import EventScript.Proofs.Compile.Outcomes

/-!
# How a write ends

A script is written, or declined, or refused by the system, and each has its one cause. What ends a
write in another way is a path that cannot be handed to the system, and one that the system does not
look for because it is too long: the question whether there is anything to replace comes before the
store, so that such a path is never refused as others are. Whoever is asked may also break down
instead of answering.
-/

namespace EventScript

namespace FileTree

variable {tree : FileTree} {path : Path} {bytes : Bytes}

/-- What makes a write break down where it should be refused. -/
inductive Hinders (tree : FileTree) (path : Path) : Breakdown → Prop
  | unspeakable {reason : Unspeakable} (unspoken : unspeakable? path.toText = some reason) :
    Hinders tree path (.unspeakablePath reason)
  | outOfReach (beyond : tree.IsOutOfReach path) : Hinders tree path (.pathTooLong path)

theorem not_hinders_iff : (∀ breakdown, ¬tree.Hinders path breakdown) ↔
    unspeakable? path.toText = none ∧ ¬tree.IsOutOfReach path := by
  constructor
  · intro free
    refine ⟨Option.eq_none_iff_forall_ne_some.mpr ?_, fun beyond => free _ (.outOfReach beyond)⟩
    exact fun reason unspoken => free _ (.unspeakable unspoken)
  · rintro ⟨speakable, near⟩ breakdown hinders
    cases hinders with
    | unspeakable unspoken => cases speakable.symm.trans unspoken
    | outOfReach beyond => exact near beyond

/-- The system looks for no name that is too long to be stored. -/
theorem locate_of_store_nameTooLong (refused : tree.store path bytes = .error .nameTooLong) :
    tree.locate path = .error .nameTooLong := by
  have untargeted : tree.locateTarget path = .error .nameTooLong := by
    unfold store at refused
    split at refused
    · next reason failed =>
      cases refused
      exact failed
    · cases refused
  unfold locateTarget at untargeted
  unfold locate
  split at untargeted
  · next long => rw [if_pos long]
  · next short =>
    rw [if_neg short]
    split at untargeted
    · cases untargeted
    · next name last =>
      obtain ⟨front, parts⟩ := List.getLast?_eq_some_iff.mp last
      rw [List.map_dropLast, parts, List.dropLast_concat] at untargeted
      rw [parts, walk_append]
      split at untargeted
      · next reason stopped =>
        cases untargeted
        rw [stopped]
        rfl
      · next directory walked =>
        rw [walked]
        simp only [Except.bind, walk]
        repeat' split at untargeted
        all_goals cases untargeted
        next inside named long => rw [if_neg inside, if_neg named, if_pos long]

end FileTree

namespace Job

open FileTree

variable {tree after : FileTree} {path : Path} {script : Bytes}
  {answer : Except Breakdown Bool} {result : Except Failure Nat}

namespace Writes

variable (writes : Writes tree path script answer after result)
include writes

theorem eq_declined_iff :
    result = .error (.refused (.declined path)) ↔ tree.Leads path ∧ answer = .ok false := by
  constructor
  · intro declined
    cases writes with
    | declined leads denied => exact ⟨leads, denied⟩
    | unspeakable | outOfReach | unanswered | unwritable | stored => cases declined
  · rintro ⟨leads, denied⟩
    exact (writes.eq_of_denied leads denied).2

theorem eq_unwritable_iff {reason : FileTree.Refusal} :
    result = .error (.refused (.unwritable path reason)) ↔
      (∀ breakdown, ¬tree.Hinders path breakdown) ∧ (tree.Leads path → answer = .ok true) ∧
        tree.store path script = .error reason := by
  rw [not_hinders_iff]
  constructor
  · intro failed
    cases writes with
    | unwritable speakable near allowed refused =>
      cases failed
      exact ⟨⟨speakable, near⟩, allowed, refused⟩
    | unspeakable | outOfReach | declined | unanswered | stored => cases failed
  · rintro ⟨⟨speakable, near⟩, allowed, refused⟩
    exact (writes.eq_of_unwritable speakable near allowed refused).2

theorem eq_brokeDown_iff {breakdown : Breakdown} :
    result = .error (.brokeDown breakdown) ↔
      tree.Hinders path breakdown ∨ tree.Leads path ∧ answer = .error breakdown := by
  constructor
  · intro broke
    cases writes with
    | unspeakable unspoken =>
      cases broke
      exact .inl (.unspeakable unspoken)
    | outOfReach beyond =>
      cases broke
      exact .inl (.outOfReach beyond)
    | unanswered leads unanswered =>
      cases broke
      exact .inr ⟨leads, unanswered⟩
    | declined | unwritable | stored => cases broke
  · rintro (hinders | ⟨leads, unanswered⟩)
    · cases hinders with
      | unspeakable unspoken => exact (writes.eq_of_unspeakable unspoken).2
      | outOfReach beyond => exact (writes.eq_of_isOutOfReach beyond).2
    · exact (writes.eq_of_unanswered leads unanswered).2

theorem cases_of_error {failure : Failure} (failed : result = .error failure) :
    after = tree ∧ (failure = .refused (.declined path) ∨
      (∃ reason, reason ≠ .nameTooLong ∧ failure = .refused (.unwritable path reason)) ∨
      ∃ breakdown, failure = .brokeDown breakdown) := by
  cases writes with
  | unspeakable | outOfReach | unanswered =>
    cases failed
    exact ⟨rfl, .inr (.inr ⟨_, rfl⟩)⟩
  | declined =>
    cases failed
    exact ⟨rfl, .inl rfl⟩
  | unwritable speakable near allowed refused =>
    cases failed
    refine ⟨rfl, .inr (.inl ⟨_, ?_, rfl⟩)⟩
    rintro rfl
    exact near ⟨speakable, locate_of_store_nameTooLong refused⟩
  | stored => cases failed

end Writes

/-- A write that returns has put the script where the path leads and changed nothing else. One that
fails leaves the tree as it was. It is declined exactly if something exists there and nobody
consents to replace it, and refused for what the system has against the store, unless the path
hinders it: this makes it break down, and nothing else does except a consent that breaks down
itself. Consent is asked for once, and only if something exists. -/
theorem writeScript_ending (script : Bytes) (path : Path) (consent : Option Consent)
    (tree : FileTree) :
    let outcome := writeScript script path consent tree
    (∀ size, outcome.result = .ok size →
      size = script.length ∧ tree.Stored outcome.tree path script) ∧
    (∀ failure, outcome.result = .error failure → outcome.tree = tree ∧
      (failure = .refused (.declined path) ∨
        (∃ reason, reason ≠ .nameTooLong ∧ failure = .refused (.unwritable path reason)) ∨
        ∃ breakdown, failure = .brokeDown breakdown)) ∧
    (outcome.result = .error (.refused (.declined path)) ↔
      tree.Leads path ∧ answerOf path consent = .ok false) ∧
    (∀ reason, outcome.result = .error (.refused (.unwritable path reason)) ↔
      (∀ breakdown, ¬tree.Hinders path breakdown) ∧
        (tree.Leads path → answerOf path consent = .ok true) ∧
        tree.store path script = .error reason) ∧
    (∀ breakdown, outcome.result = .error (.brokeDown breakdown) ↔
      tree.Hinders path breakdown ∨ tree.Leads path ∧ answerOf path consent = .error breakdown) ∧
    ∃ asked told, outcome.events = asked ++ told ∧
      (∀ event ∈ told, event.isQuestion = false) ∧
      (tree.Leads path ∧ asked = consultation path consent ∨ ¬tree.Leads path ∧ asked = []) := by
  intro outcome
  have writes := writes_writeScript script path consent tree
  obtain ⟨wrote, asked, before, after, seen, idleBefore, idleAfter, asking⟩ :=
    wrote_writeScript script path consent tree
  refine ⟨?_, fun _ => writes.cases_of_error, writes.eq_declined_iff,
    fun _ => writes.eq_unwritable_iff, fun _ => writes.eq_brokeDown_iff, asked, _, seen, ?_, asking⟩
  · intro size returned
    unfold Wrote at wrote
    rw [show (writeScript script path consent tree).result = .ok size from returned] at wrote
    exact wrote
  · intro event membership
    simp only [List.mem_append] at membership
    rcases membership with (early | written) | late
    · exact Event.isQuestion_eq_of_isIdle (idleBefore event early)
    · exact isQuestion_eq_of_mem_writing _ _ _ event written
    · exact Event.isQuestion_eq_of_isIdle (idleAfter event late)

/-- A name of 256 bytes is not refused as the system refuses it. -/
theorem not_forall_writeScript_refused :
    ¬∀ (script : Bytes) (path : Path) (consent : Option Consent) (tree : FileTree)
        (failure : Failure), (writeScript script path consent tree).result = .error failure →
      ∃ refusal, failure = .refused refusal := by
  intro refuses
  let path : Path := ⟨.relative, [List.replicate 256 'n']⟩
  let tree : FileTree := ⟨[], []⟩
  have speakable : unspeakable? path.toText = none := by decide +kernel
  have beyond : tree.locate path = .error .nameTooLong := by decide +kernel
  have broke := (writes_writeScript [] path none tree).eq_of_isOutOfReach ⟨speakable, beyond⟩
  obtain ⟨refusal, refused⟩ := refuses [] path none tree _ broke.2
  cases refused

end Job

end EventScript
