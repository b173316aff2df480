import EventScript.Compile
import EventScript.Proofs.FileTree
import EventScript.Proofs.Job

/-!
# Writing a script

An output that exists is asked about once, one that does not is never asked about. A write that
fails, for want of consent or because the system refuses it, leaves the tree as it was.
-/

namespace EventScript

namespace Job

/-- What is seen while an existing output is asked about. -/
def consultation (path : Path) : Option Consent → List Event
  | none => []
  | some consent => .question (overwriteQuestion path) :: (consent (overwriteQuestion path)).events

/-- What is said to the question whether an existing output may be replaced: no, if nobody is
asked. -/
def answerOf (path : Path) : Option Consent → Except Breakdown Bool
  | none => .ok false
  | some consent => (consent (overwriteQuestion path)).answer

/-- What an answer amounts to for writing. -/
def permission (path : Path) : Except Breakdown Bool → Except Failure Unit
  | .ok true => .ok ()
  | .ok false => .error (.refused (.declined path))
  | .error breakdown => .error (.brokeDown breakdown)

theorem askConsent_apply (path : Path) (consent : Option Consent) (tree : FileTree) :
    ∃ told, (∀ event ∈ told, event.isIdle = true) ∧
      askConsent path consent tree =
        ⟨tree, consultation path consent ++ told, permission path (answerOf path consent)⟩ := by
  cases consent with
  | none => exact ⟨[], nofun, rfl⟩
  | some consent =>
    simp only [askConsent, answerOf, consultation, emit_bind]
    rcases (consent (overwriteQuestion path)).answer with breakdown | (- | -)
    · exact ⟨[], nofun, rfl⟩
    · exact ⟨[], nofun, rfl⟩
    · refine ⟨[.log .info .writer (.concat ["Overwriting existing script ", path.toText])], ?_, rfl⟩
      intro event membership
      rw [List.mem_singleton.mp membership]
      rfl

/-- The system is asked about a path that it can take, and its answer changes nothing. -/
theorem find?_apply (path : Path) (tree : FileTree) :
    ∃ result, find? path tree = ⟨tree, [], result⟩ ∧
      (tree.Leads path ↔ ∃ node, result = .ok (some node)) := by
  unfold find? FileTree.Leads
  cases speakable : FileTree.unspeakable? path.toText with
  | some reason => exact ⟨.ok none, rfl, by simp⟩
  | none =>
    simp only [Option.isSome_none, Bool.false_eq_true, if_false, tree_bind]
    cases found : tree.locate path with
    | error refusal =>
      cases refusal with
      | nameTooLong => exact ⟨_, rfl, by simp⟩
      | missing | isDirectory | notDirectory => exact ⟨_, rfl, by simp⟩
    | ok location => exact ⟨.ok (tree.lookup location), rfl, by simp [Option.isSome_iff_exists]⟩

/-- A store either fails and does nothing, or puts the script where the path leads. -/
theorem store_apply (path : Path) (script : Bytes) (tree : FileTree) :
    (∃ failure, store path script tree = ⟨tree, [], .error failure⟩) ∨
      ∃ after, tree.store path script = .ok after ∧
        store path script tree = ⟨after, [.written path script], .ok ()⟩ := by
  unfold store
  cases FileTree.unspeakable? path.toText with
  | some reason => exact .inl ⟨_, rfl⟩
  | none =>
    simp only [tree_bind]
    cases tree.store path script with
    | error refusal => exact .inl ⟨_, rfl⟩
    | ok after => exact .inr ⟨after, rfl, rfl⟩

/-- What came of writing: a failure and the tree as it was, or the script in its place. -/
def Wrote (tree : FileTree) (path : Path) (script : Bytes) (outcome : Outcome Nat) : Prop :=
  match outcome.result with
  | .error _ => outcome.tree = tree
  | .ok size => size = script.length ∧ tree.Stored outcome.tree path script

/-- What is seen of a write that ends with this result, besides lines of the log. -/
def writing (path : Path) (script : Bytes) : Except Failure Nat → List Event
  | .error _ => []
  | .ok _ => [.written path script]

theorem isQuestion_eq_of_mem_writing (path : Path) (script : Bytes) (result : Except Failure Nat) :
    ∀ event ∈ writing path script result, event.isQuestion = false := by
  intro event membership
  cases result with
  | error failure => cases membership
  | ok size =>
    rw [List.mem_singleton.mp membership]
    rfl

/-- The end of writing, once nothing stands against it. -/
def storeAndTell (script : Bytes) (path : Path) : Job Nat := do
  store path script
  log .debug .writer ["Wrote ", Numeral.digits script.length, " bytes to ", path.toText]
  return script.length

theorem wrote_storeAndTell (script : Bytes) (path : Path) (tree : FileTree) :
    let outcome := storeAndTell script path tree
    Wrote tree path script outcome ∧
      ∃ told, (∀ event ∈ told, event.isIdle = true) ∧
        outcome.events = writing path script outcome.result ++ told := by
  intro outcome
  rcases store_apply path script tree with ⟨failure, ran⟩ | ⟨after, stored, ran⟩
  · have ended : outcome = ⟨tree, [], .error failure⟩ := bind_of_error ran _
    rw [ended]
    exact ⟨rfl, [], nofun, rfl⟩
  · have ended : outcome = _ := bind_of_ok ran _
    rw [ended]
    refine ⟨⟨rfl, FileTree.stored_of_store stored⟩, [.log .debug .writer (.concat ["Wrote ",
      Numeral.digits script.length, " bytes to ", path.toText])], ?_, rfl⟩
    intro event membership
    rw [List.mem_singleton.mp membership]
    rfl

theorem writeScript_eq (script : Bytes) (path : Path) (consent : Option Consent) :
    writeScript script path consent =
      find? path >>= fun found =>
        if found.isSome then askConsent path consent >>= fun _ => storeAndTell script path
        else storeAndTell script path :=
  rfl

/-- Writing asks first and only about an output that exists. -/
theorem wrote_writeScript (script : Bytes) (path : Path) (consent : Option Consent)
    (tree : FileTree) :
    let outcome := writeScript script path consent tree
    Wrote tree path script outcome ∧
      ∃ asked before after,
        outcome.events = asked ++ (before ++ writing path script outcome.result ++ after) ∧
        (∀ event ∈ before, event.isIdle = true) ∧ (∀ event ∈ after, event.isIdle = true) ∧
        (tree.Leads path ∧ asked = consultation path consent ∨ ¬tree.Leads path ∧ asked = []) := by
  intro outcome
  obtain ⟨wrote, told, idle, seen⟩ := wrote_storeAndTell script path tree
  obtain ⟨found, looked, leads⟩ := find?_apply path tree
  have ran : outcome = (find? path >>= _) tree := congrFun (writeScript_eq script path consent) tree
  rcases found with failure | (- | node)
  · rw [bind_of_error looked] at ran
    have free : ¬tree.Leads path := by
      rw [leads]
      exact nofun
    rw [ran]
    exact ⟨rfl, [], [], [], rfl, nofun, nofun, .inr ⟨free, rfl⟩⟩
  · rw [bind_of_ok looked] at ran
    have free : ¬tree.Leads path := by
      rw [leads]
      exact nofun
    have stored : outcome = storeAndTell script path tree := ran
    rw [stored]
    exact ⟨wrote, [], [], told, seen, nofun, idle, .inr ⟨free, rfl⟩⟩
  · rw [bind_of_ok looked] at ran
    have existing : tree.Leads path := leads.mpr ⟨node, rfl⟩
    obtain ⟨confirmed, idleConfirmed, asking⟩ := askConsent_apply path consent tree
    simp only [Option.isSome_some, if_true, List.nil_append] at ran
    cases permitted : permission path (answerOf path consent) with
    | error failure =>
      rw [permitted] at asking
      rw [bind_of_error asking] at ran
      rw [ran]
      refine ⟨rfl, consultation path consent, confirmed, [], ?_, idleConfirmed, nofun,
        .inl ⟨existing, rfl⟩⟩
      simp only [writing, List.append_nil]
    | ok permit =>
      rw [permitted] at asking
      rw [bind_of_ok asking] at ran
      rw [ran]
      refine ⟨wrote, consultation path consent, confirmed, told, ?_, idleConfirmed, idle,
        .inl ⟨existing, rfl⟩⟩
      simp only [seen, List.append_assoc]

/-- Nothing stands against a script where the system finds nothing in a directory. -/
theorem writeScript_of_missing {path : Path} {directory : Location} {tree : FileTree}
    (speakable : FileTree.unspeakable? path.toText = none)
    (missing : tree.locate path = .error .missing)
    (parent : tree.locate path.parent = .ok directory) (script : Bytes)
    (consent : Option Consent) :
    tree.Stored (writeScript script path consent tree).tree path script ∧
      (writeScript script path consent tree).result = .ok script.length := by
  obtain ⟨after, stored⟩ := FileTree.exists_store_eq_ok missing parent script
  have looked : find? path tree = ⟨tree, [], .ok none⟩ := by
    unfold find?
    simp only [speakable, Option.isSome_none, Bool.false_eq_true, if_false, tree_bind, missing]
    rfl
  have ran : store path script tree = ⟨after, [.written path script], .ok ()⟩ := by
    unfold store
    simp only [speakable, tree_bind, stored]
    rfl
  rw [writeScript_eq, bind_of_ok looked]
  simp only [Option.isSome_none, Bool.false_eq_true, if_false, storeAndTell]
  rw [bind_of_ok ran]
  exact ⟨FileTree.stored_of_store stored, rfl⟩

end Job

end EventScript
