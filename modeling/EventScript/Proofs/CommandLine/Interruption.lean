import EventScript.CommandLine.Run
import EventScript.Proofs.Job

/-!
# Interruptions

An interruption leaves a beginning of what a run does, and the last of it may be a script of which
only some bytes are written. The events that are left tell what is left of the files.
-/

namespace EventScript.CommandLine

variable {tree after : FileTree} {events front back done : List Event} {count : Nat}
  {bytes : Option Nat} {path : Path} {script : Bytes}

/-! ## Trees after events -/

theorem treeAfterEvents_append (tree : FileTree) (first second : List Event) :
    treeAfterEvents tree (first ++ second) =
      treeAfterEvents (treeAfterEvents tree first) second :=
  List.foldl_append

theorem treeAfterEvents_eq_self (unwritten : ∀ event ∈ events, event.isWriting = false) :
    treeAfterEvents tree events = tree := by
  induction events with
  | nil => rfl
  | cons event rest ih =>
    obtain ⟨other, others⟩ := List.forall_mem_cons.mp unwritten
    cases event with
    | written => cases other
    | _ => exact ih others

/-- Among events that write nothing else, a script is stored. -/
theorem treeAfterEvents_of_written (before : ∀ event ∈ front, event.isWriting = false)
    (behind : ∀ event ∈ back, event.isWriting = false) (kept : tree.store path script = .ok after) :
    treeAfterEvents tree (front ++ .written path script :: back) = after := by
  have stored : treeAfterEvents tree (.written path script :: back) =
      treeAfterEvents after back := by
    simp only [treeAfterEvents, List.foldl_cons, kept]
    rfl
  rw [treeAfterEvents_append, treeAfterEvents_eq_self before, stored,
    treeAfterEvents_eq_self behind]

/-! ## Beginnings of events -/

/-- What has happened is a beginning of the events, and some bytes of a script that comes next. -/
theorem happened?_cases (happened : happened? events count bytes = some done) :
    done = events.take count ∨ ∃ path script size, events[count]? = some (.written path script) ∧
      done = events.take count ++ [.written path (script.take size)] := by
  unfold happened? at happened
  split at happened
  · cases happened
  · split at happened
    · next path script size next =>
      cases happened
      exact .inr ⟨path, script, size, next, rfl⟩
    · cases happened
      exact .inl rfl

/-- A question that has been asked is one of the events, whatever else was cut off. -/
theorem question_mem_of_happened {message : Text}
    (happened : happened? events count bytes = some done) (asked : .question message ∈ done) :
    .question message ∈ events := by
  rcases happened?_cases happened with rfl | ⟨path, script, size, -, rfl⟩
  · exact List.mem_of_mem_take asked
  · rcases List.mem_append.mp asked with early | last
    · exact List.mem_of_mem_take early
    · cases List.mem_singleton.mp last

/-- Of a run that writes nothing, nothing is written. -/
theorem isWriting_eq_of_happened (unwritten : ∀ event ∈ events, event.isWriting = false)
    (happened : happened? events count bytes = some done) :
    ∀ event ∈ done, event.isWriting = false := by
  rcases happened?_cases happened with rfl | ⟨path, script, size, next, rfl⟩
  · exact fun event early => unwritten event (List.mem_of_mem_take early)
  · cases unwritten _ (List.mem_of_getElem? next)

/-- Of a run that writes one script, either nothing is written, or some of that script after all
that goes before it. -/
theorem written_of_happened (before : ∀ event ∈ front, event.isWriting = false)
    (behind : ∀ event ∈ back, event.isWriting = false)
    (happened : happened? (front ++ .written path script :: back) count bytes = some done) :
    (∀ event ∈ done, event.isWriting = false) ∨
      ∃ size rest, done = front ++ .written path (script.take size) :: rest ∧
        ∀ event ∈ rest, event.isWriting = false := by
  rcases happened?_cases happened with rfl | ⟨path', script', size, next, rfl⟩
  · rcases Nat.lt_or_ge front.length count with later | early
    · obtain ⟨more, rfl⟩ := Nat.exists_eq_add_of_lt later
      refine .inr ⟨script.length, back.take more, ?_, ?_⟩
      · rw [Nat.add_assoc, List.take_length_add_append, List.take_succ_cons, List.take_length]
      · exact fun event taken => behind event (List.mem_of_mem_take taken)
    · rw [List.take_append_of_le_length early]
      exact .inl fun event taken => before event (List.mem_of_mem_take taken)
  · rcases Nat.lt_trichotomy count front.length with early | rfl | later
    · rw [List.getElem?_append_left early] at next
      cases before _ (List.mem_of_getElem? next)
    · rw [List.getElem?_append_right (Nat.le_refl _), Nat.sub_self, List.getElem?_cons_zero] at next
      cases next
      rw [List.take_left]
      exact .inr ⟨size, [], rfl, nofun⟩
    · obtain ⟨more, rfl⟩ := Nat.exists_eq_add_of_lt later
      rw [List.getElem?_append_right (by omega),
        show front.length + more + 1 - front.length = more + 1 by omega,
        List.getElem?_cons_succ] at next
      cases behind _ (List.mem_of_getElem? next)

/-- At a prompt, or after everything else, there is nothing to interrupt. -/
theorem happened?_eq_none_iff : happened? events count bytes = none ↔
    ¬(count ≤ events.length ∧ isPrompting (events.take count) = false) := by
  unfold happened?
  split
  · next missed =>
    simp only [Bool.or_eq_true, decide_eq_true_eq] at missed
    simp only [true_iff, not_and, Bool.not_eq_false]
    rcases missed with late | prompting
    · omega
    · exact fun _ => prompting
  · next heard =>
    simp only [Bool.or_eq_true, decide_eq_true_eq, not_or, Nat.not_lt, Bool.not_eq_true] at heard
    split <;> simp [heard]

/-! ## Interrupted runs -/

variable {invocation : Invocation} {request : Request} {outcome : Outcome Nat}

/-- What becomes of the work of a run, with the interruption that it is given. -/
inductive Becomes (invocation : Invocation) (request : Request) (tree : FileTree) :
    Outcome Nat → Prop
  | peaceful (undisturbed : invocation.interruption = none) :
    Becomes invocation request tree (work invocation request tree)
  | starting (early : invocation.interruption = some .starting) :
    Becomes invocation request tree ⟨tree, [], .error (.brokeDown .interrupted)⟩
  | unheard {count : Nat} {bytes : Option Nat}
    (interrupted : invocation.interruption = some (.working count bytes))
    (missed : happened? (work invocation request tree).events count bytes = none) :
    Becomes invocation request tree (work invocation request tree)
  | cancelled {count : Nat} {bytes : Option Nat} {done : List Event}
    (interrupted : invocation.interruption = some (.working count bytes))
    (happened : happened? (work invocation request tree).events count bytes = some done) :
    Becomes invocation request tree
      ⟨treeAfterEvents tree done, done ++ [.shown "\nCancelled by user.\n"], .ok 130⟩
  | leaving (late : invocation.interruption = some .leaving) :
    Becomes invocation request tree
      ⟨(work invocation request tree).tree, (work invocation request tree).events,
        (work invocation request tree).result.bind fun _ => .error (.brokeDown .interrupted)⟩

theorem becomes_compile (invocation : Invocation) (request : Request) (tree : FileTree) :
    Becomes invocation request tree (compile invocation request tree) := by
  unfold compile
  split
  · next undisturbed => exact .peaceful undisturbed
  · next early => exact .starting early
  · next count bytes interrupted =>
    dsimp only
    split
    · next missed => exact .unheard interrupted missed
    · next done happened => exact .cancelled interrupted happened
  · next late => exact .leaving late

theorem compile_of_undisturbed (undisturbed : invocation.interruption = none) :
    compile invocation request tree = work invocation request tree := by
  unfold compile
  rw [undisturbed]

/-- An interrupted run has asked nothing that it would not have asked anyway. -/
theorem Becomes.question_mem {message : Text} (becomes : Becomes invocation request tree outcome)
    (asked : .question message ∈ outcome.events) :
    .question message ∈ (work invocation request tree).events := by
  cases becomes with
  | peaceful | unheard | leaving => exact asked
  | starting => cases asked
  | cancelled interrupted happened =>
    rcases List.mem_append.mp asked with early | last
    · exact question_mem_of_happened happened early
    · cases List.mem_singleton.mp last

end EventScript.CommandLine
