import EventScript.Proofs.Script.Faults

/-!
# What operations leave behind

Operations on a buffer follow one another, whether or not they fail. Each of them adds to the end
what it would add to any other buffer. If it fails that is nothing, except that a command with a
timer within range leaves the timer and the texts before the first that cannot be stored.
-/

namespace EventScript.Script

inductive Operation
  | raw (bytes : Bytes)
  | timer (n : Int)
  | text (t : Text)
  | count (n : Int)
  | header (config : Config)
  | record (command : Command)

def Operation.writing : Operation → Writing Unit
  | .raw bytes => writeBytes bytes
  | .timer n => writeTimer n
  | .text t => writeText t
  | .count n => writeCount n
  | .header config => writeHeader config
  | .record command => writeCommand command

/-- What an operation adds if nothing is wrong with its arguments. -/
inductive Encodes : Operation → Bytes → Prop
  | raw (bytes : Bytes) : Encodes (.raw bytes) bytes
  | timer {n : Int} (low : Word.least ≤ n) (high : n ≤ Word.greatest) :
    Encodes (.timer n) (Word.encode n)
  | text {t : Text} (storable : t.IsStorable) : Encodes (.text t) (textRecord t)
  | count (n : Int) : Encodes (.count n) [UInt8.ofNat (n % 256).toNat, 0, 0, 0]
  | header {config : Config} (wellFormed : config.WellFormed) :
    Encodes (.header config) (config.magic ++ config.stamp.map fun c => UInt8.ofNat c.val)
  | record {command : Command} (storable : command.IsStorable) :
    Encodes (.record command) (record command)

/-- What an operation adds before it fails. -/
inductive Abandons : Operation → Bytes → Prop
  | timer {n : Int} (beyond : ¬(Word.least ≤ n ∧ n ≤ Word.greatest)) : Abandons (.timer n) []
  | text {t : Text} (unfit : ¬t.IsStorable) : Abandons (.text t) []
  | header {config : Config} (unfit : ¬config.WellFormed) : Abandons (.header config) []
  | timerOfRecord {command : Command}
    (beyond : ¬(Word.least ≤ command.timer ∧ command.timer ≤ Word.greatest)) :
    Abandons (.record command) []
  | textOfRecord {command : Command} {before after : List Text} {t : Text}
    (low : Word.least ≤ command.timer) (high : command.timer ≤ Word.greatest)
    (split : command.texts = before ++ t :: after) (storable : ∀ u ∈ before, u.IsStorable)
    (unfit : ¬t.IsStorable) :
    Abandons (.record command) (Word.encode command.timer ++ before.flatMap textRecord)

/-- What an operation adds, and whether it fails. -/
inductive Leaves (operation : Operation) (bytes : Bytes) : Option Failure → Prop
  | done (encodes : Encodes operation bytes) : Leaves operation bytes none
  | failed (abandons : Abandons operation bytes) (failure : Failure) :
    Leaves operation bytes (some failure)

theorem Leaves.of_count {n : Int} {bytes : Bytes} {failure? : Option Failure}
    (leaves : Leaves (.count n) bytes failure?) :
    bytes = [UInt8.ofNat (n % 256).toNat, 0, 0, 0] ∧ failure? = none := by
  cases leaves with
  | done encodes =>
    cases encodes
    exact ⟨rfl, rfl⟩
  | failed abandons => cases abandons

open Writing

variable {operation : Operation} {bytes : Bytes} {failure? : Option Failure} {failure : Failure}

theorem contributes_writeTexts_of_split {before after : List Text} {t : Text}
    (storable : ∀ u ∈ before, u.IsStorable) (failed : textFailure? t = some failure) :
    (writeTexts (before ++ t :: after)).Contributes (before.flatMap textRecord) (some failure) := by
  induction before with
  | nil => exact ((atomic_writeText t).contributes_nil failed).bind_error
  | cons u before ih =>
    rw [List.forall_mem_cons] at storable
    exact (contributes_writeText storable.1).bind (ih storable.2)

theorem exists_contributes_of_atomic (operation : Operation)
    (atomic : operation.writing.Atomic bytes failure?)
    (done : failure? = none → Encodes operation bytes)
    (failed : failure? ≠ none → Abandons operation []) :
    ∃ left ended, Leaves operation left ended ∧ operation.writing.Contributes left ended := by
  cases failure? with
  | none => exact ⟨bytes, none, .done (done rfl), atomic⟩
  | some failure => exact ⟨[], some failure, .failed (failed nofun) failure, atomic⟩

theorem exists_contributes_record (command : Command) :
    ∃ left ended, Leaves (.record command) left ended ∧
      (writeCommand command).Contributes left ended := by
  have timer := atomic_writeTimer command.timer
  cases timerEnd : timerFailure? command.timer with
  | some failure =>
    have beyond : ¬(Word.least ≤ command.timer ∧ command.timer ≤ Word.greatest) := by
      rw [← timerFailure?_eq_none_iff, timerEnd]
      exact nofun
    exact ⟨[], some failure, .failed (.timerOfRecord beyond) failure,
      (timer.contributes_nil timerEnd).bind_error⟩
  | none =>
    obtain ⟨low, high⟩ := timerFailure?_eq_none_iff.mp timerEnd
    cases textEnd : command.texts.findSome? textFailure? with
    | none =>
      have storable : command.IsStorable := by
        rw [← commandFailure?_eq_none_iff, commandFailure?, timerEnd, textEnd]
        rfl
      exact ⟨record command, none, .done (.record storable), contributes_writeCommand storable⟩
    | some failure =>
      obtain ⟨before, t, after, split, failed, clean⟩ := List.findSome?_eq_some_iff.mp textEnd
      have storable : ∀ u ∈ before, u.IsStorable :=
        fun u early => textFailure?_eq_none_iff.mp (clean u early)
      have unfit : ¬t.IsStorable := by
        rw [← textFailure?_eq_none_iff, failed]
        exact nofun
      have texts : (writeTexts command.texts).Contributes (before.flatMap textRecord)
          (some failure) := by
        rw [split]
        exact contributes_writeTexts_of_split storable failed
      exact ⟨_, some failure, .failed (.textOfRecord low high split storable unfit) failure,
        (timer.contributes timerEnd).bind texts⟩

/-- An operation leaves the same in every buffer. -/
theorem Operation.exists_contributes (operation : Operation) :
    ∃ left ended, Leaves operation left ended ∧ operation.writing.Contributes left ended := by
  cases operation with
  | raw bytes => exact ⟨bytes, none, .done (.raw bytes), contributes_writeBytes bytes⟩
  | count n => exact ⟨_, none, .done (.count n), contributes_writeBytes (countField n)⟩
  | timer n =>
    apply exists_contributes_of_atomic (.timer n) (atomic_writeTimer n)
    · intro clean
      obtain ⟨low, high⟩ := timerFailure?_eq_none_iff.mp clean
      exact .timer low high
    · exact fun failed => .timer (mt timerFailure?_eq_none_iff.mpr failed)
  | text t =>
    apply exists_contributes_of_atomic (.text t) (atomic_writeText t)
    · exact fun clean => .text (textFailure?_eq_none_iff.mp clean)
    · exact fun failed => .text (mt textFailure?_eq_none_iff.mpr failed)
  | header config =>
    apply exists_contributes_of_atomic (.header config) (atomic_writeHeader config)
    · exact fun clean => .header (headerFailure?_eq_none_iff.mp clean)
    · exact fun failed => .header (mt headerFailure?_eq_none_iff.mpr failed)
  | record command => exact exists_contributes_record command

/-! ## Sequences of operations -/

namespace Buffer

/-- A buffer after a sequence of operations, which goes on after those that fail. -/
def runAll (buffer : Buffer) (operations : List Operation) : Buffer :=
  operations.foldl (fun buffer operation => (operation.writing.on buffer).1) buffer

variable {contribution : Operation → Bytes} {ended : Operation → Option Failure}

theorem runAll_cons
    (contributes : operation.writing.Contributes (contribution operation) (ended operation))
    (buffer : Buffer) (rest : List Operation) :
    buffer.runAll (operation :: rest) = (buffer.append (contribution operation)).runAll rest := by
  rw [runAll, List.foldl_cons, contributes buffer]
  rfl

/-- If each operation contributes its own bytes, a sequence of them contributes these one after the
other. -/
theorem runAll_eq
    (contributes : ∀ operation : Operation,
      operation.writing.Contributes (contribution operation) (ended operation))
    (buffer : Buffer) (operations : List Operation) :
    buffer.runAll operations = buffer.append (operations.flatMap contribution) := by
  induction operations generalizing buffer with
  | nil => exact buffer.append_nil.symm
  | cons operation rest ih =>
    rw [runAll_cons (contributes operation), ih, append_append, List.flatMap_cons]

/-- A new buffer holds what the operations on it have contributed, one after the other and whether
or not they failed, and as many bytes as its length says. Each operation adds to the end, and one
that adds a count field cannot fail. -/
theorem toList_runAll_empty :
    ∃ (contribution : Operation → Bytes) (ended : Operation → Option Failure),
      (∀ operation, Leaves operation (contribution operation) (ended operation)) ∧
      (∀ n, contribution (.count n) = [UInt8.ofNat (n % 256).toNat, 0, 0, 0] ∧
        ended (.count n) = none) ∧
      ∀ operations,
        (empty.runAll operations).toList = operations.flatMap contribution ∧
        (empty.runAll operations).length = (empty.runAll operations).toList.length ∧
        ∀ operation,
          operation.writing.on (empty.runAll operations) =
            (empty.runAll (operations ++ [operation]), ended operation) ∧
          (empty.runAll operations).toList <+:
            (empty.runAll (operations ++ [operation])).toList := by
  choose contribution ended leaves contributes using Operation.exists_contributes
  refine ⟨contribution, ended, leaves, fun n => (leaves (.count n)).of_count, ?_⟩
  intro operations
  have whole := runAll_eq contributes empty
  refine ⟨?_, (length_toList _).symm, ?_⟩
  · rw [whole, toList_append, toList_empty, List.nil_append]
  · intro operation
    have further : empty.runAll (operations ++ [operation]) =
        (empty.runAll operations).append (contribution operation) := by
      rw [whole, whole, append_append, List.flatMap_append, List.flatMap_singleton]
    rw [further, toList_append]
    exact ⟨contributes operation _, List.prefix_append _ _⟩

end Buffer

end EventScript.Script
