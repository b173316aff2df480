import EventScript.Job

/-!
# Running jobs

Jobs follow the laws of monads. A quiet job leaves the files alone and asks nobody, so that what
comes after it starts from the same tree. What a job lets be seen tells what it does to the files.
-/

namespace EventScript

def Event.isQuestion : Event → Bool
  | .question _ => true
  | _ => false

def Event.isWriting : Event → Bool
  | .written _ _ => true
  | _ => false

/-- The event shows something, and is not about a question or a file. -/
def Event.isIdle : Event → Bool
  | .status _ | .log _ _ _ | .shown _ => true
  | _ => false

theorem Event.isQuestion_eq_of_isIdle {event : Event} (idle : event.isIdle = true) :
    event.isQuestion = false := by
  cases event with
  | question => cases idle
  | _ => rfl

theorem Event.isWriting_eq_of_isIdle {event : Event} (idle : event.isIdle = true) :
    event.isWriting = false := by
  cases event with
  | written => cases idle
  | _ => rfl

theorem Event.question_notMem {events : List Event} {message : Text}
    (unasked : ∀ event ∈ events, event.isQuestion = false) : .question message ∉ events := by
  intro membership
  cases unasked _ membership

namespace Job

variable {α β : Type}

@[simp] theorem pure_apply (a : α) (tree : FileTree) : (pure a : Job α) tree = ⟨tree, [], .ok a⟩ :=
  rfl

@[simp] theorem log_apply (level : Level) (origin : Origin) (message : List Text)
    (tree : FileTree) :
    log level origin message tree = ⟨tree, [.log level origin (.concat message)], .ok ()⟩ :=
  rfl

@[simp] theorem fail_apply (failure : Failure) (tree : FileTree) :
    (fail failure : Job α) tree = ⟨tree, [], .error failure⟩ :=
  rfl

@[simp] theorem emit_bind (events : List Event) (next : Unit → Job β) (tree : FileTree) :
    (emit events >>= next) tree =
      ⟨(next () tree).tree, events ++ (next () tree).events, (next () tree).result⟩ :=
  rfl

@[simp] theorem log_bind (level : Level) (origin : Origin) (message : List Text)
    (next : Unit → Job β) (tree : FileTree) :
    (log level origin message >>= next) tree =
      ⟨(next () tree).tree, .log level origin (.concat message) :: (next () tree).events,
        (next () tree).result⟩ :=
  rfl

@[simp] theorem tree_bind (next : FileTree → Job β) (tree : FileTree) :
    (Job.tree >>= next) tree = next tree tree :=
  rfl

@[simp] theorem ofExcept_ok_bind (a : α) (next : α → Job β) :
    (ofExcept (.ok a) >>= next) = next a :=
  rfl

@[simp] theorem ofExcept_error_bind (failure : Failure) (next : α → Job β) :
    (ofExcept (.error failure) >>= next) = fail failure :=
  rfl

theorem bind_apply (job : Job α) (next : α → Job β) (tree : FileTree) :
    (job >>= next) tree =
      match (job tree).result with
      | .error failure => ⟨(job tree).tree, (job tree).events, .error failure⟩
      | .ok a =>
        ⟨(next a (job tree).tree).tree, (job tree).events ++ (next a (job tree).tree).events,
          (next a (job tree).tree).result⟩ :=
  rfl

theorem bind_of_ok {job : Job α} {tree after : FileTree} {events : List Event} {a : α}
    (ran : job tree = ⟨after, events, .ok a⟩) (next : α → Job β) :
    (job >>= next) tree =
      ⟨(next a after).tree, events ++ (next a after).events, (next a after).result⟩ := by
  rw [bind_apply, ran]

theorem bind_of_error {job : Job α} {tree after : FileTree} {events : List Event}
    {failure : Failure} (ran : job tree = ⟨after, events, .error failure⟩) (next : α → Job β) :
    (job >>= next) tree = ⟨after, events, .error failure⟩ := by
  rw [bind_apply, ran]

theorem bind_pure_eq (job : Job α) : job >>= pure = job := by
  funext tree
  rw [bind_apply]
  rcases job tree with ⟨after, events, failure | a⟩
  · rfl
  · simp

theorem bind_bind {γ : Type} (job : Job α) (next : α → Job β) (last : β → Job γ) :
    job >>= next >>= last = job >>= fun a => next a >>= last := by
  funext tree
  simp only [bind_apply]
  rcases job tree with ⟨after, events, failure | a⟩
  · rfl
  · dsimp only
    rcases next a after with ⟨later, more, failure | b⟩
    · rfl
    · simp only [List.append_assoc]

instance : LawfulMonad Job :=
  LawfulMonad.mk' Job bind_pure_eq (fun _ _ => rfl) bind_bind

@[simp] theorem map_apply (f : α → β) (job : Job α) (tree : FileTree) :
    (f <$> job) tree = ⟨(job tree).tree, (job tree).events, (job tree).result.map f⟩ := by
  rw [← bind_pure_comp, bind_apply]
  rcases job tree with ⟨after, events, failure | a⟩
  · rfl
  · simp [Except.map]

/-- The job leaves the files alone, asks nobody, and ends with this result. -/
structure Quiet (job : Job α) (tree : FileTree) (result : Except Failure α) : Prop where
  tree_eq : (job tree).tree = tree
  result_eq : (job tree).result = result
  isIdle : ∀ event ∈ (job tree).events, event.isIdle = true

variable {tree : FileTree}

theorem quiet_pure (a : α) : Quiet (pure a) tree (.ok a) :=
  ⟨rfl, rfl, nofun⟩

theorem quiet_ofExcept (result : Except Failure α) : Quiet (ofExcept result) tree result :=
  ⟨rfl, rfl, nofun⟩

theorem quiet_fail (failure : Failure) : Quiet (fail failure : Job α) tree (.error failure) :=
  ⟨rfl, rfl, nofun⟩

theorem quiet_emit {events : List Event} (idle : ∀ event ∈ events, event.isIdle = true) :
    Quiet (emit events) tree (.ok ()) :=
  ⟨rfl, rfl, idle⟩

theorem quiet_log (level : Level) (origin : Origin) (message : List Text) :
    Quiet (log level origin message) tree (.ok ()) := by
  apply quiet_emit
  intro event membership
  rw [List.mem_singleton.mp membership]
  rfl

theorem Quiet.isQuestion_eq {job : Job α} {result : Except Failure α}
    (quiet : job.Quiet tree result) : ∀ event ∈ (job tree).events, event.isQuestion = false :=
  fun event membership => Event.isQuestion_eq_of_isIdle (quiet.isIdle event membership)

theorem Quiet.bind_apply {job : Job α} {a : α} (quiet : job.Quiet tree (.ok a))
    (next : α → Job β) :
    (job >>= next) tree =
      ⟨(next a tree).tree, (job tree).events ++ (next a tree).events, (next a tree).result⟩ := by
  rw [Job.bind_apply, quiet.result_eq, quiet.tree_eq]

theorem Quiet.bind_apply_error {job : Job α} {failure : Failure}
    (quiet : job.Quiet tree (.error failure)) (next : α → Job β) :
    (job >>= next) tree = ⟨tree, (job tree).events, .error failure⟩ := by
  rw [Job.bind_apply, quiet.result_eq, quiet.tree_eq]

theorem Quiet.bind {job : Job α} {next : α → Job β} {a : α} {result : Except Failure β}
    (first : job.Quiet tree (.ok a)) (rest : (next a).Quiet tree result) :
    Quiet (job >>= next) tree result := by
  have ran := first.bind_apply next
  refine ⟨by rw [ran]; exact rest.tree_eq, by rw [ran]; exact rest.result_eq, ?_⟩
  intro event membership
  rw [ran] at membership
  rcases List.mem_append.mp membership with early | late
  · exact first.isIdle event early
  · exact rest.isIdle event late

theorem Quiet.bind_error {job : Job α} {failure : Failure}
    (first : job.Quiet tree (.error failure)) (next : α → Job β) :
    Quiet (job >>= next) tree (.error failure) := by
  have ran := first.bind_apply_error next
  refine ⟨by rw [ran], by rw [ran], ?_⟩
  rw [ran]
  exact first.isIdle

/-- A quiet job goes on quietly: together they end as their results do. -/
theorem Quiet.bind_result {job : Job α} {next : α → Job β} {first : Except Failure α}
    {last : α → Except Failure β} (start : job.Quiet tree first)
    (rest : ∀ a, (next a).Quiet tree (last a)) : Quiet (job >>= next) tree (first.bind last) := by
  cases first with
  | error failure => exact start.bind_error next
  | ok a => exact start.bind (rest a)

end Job

end EventScript
