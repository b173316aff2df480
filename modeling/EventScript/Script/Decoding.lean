import EventScript.Command
import EventScript.Script.Layout
import EventScript.Text.Utf8

/-!
# Decoding scripts

A reader that knows how long the stamp is finds every boundary in a script: timers have eight
bytes, texts reach to the next null byte, and records to the end of the script. The count field is
not needed for it, so more records than it can count are found as well.
-/

namespace EventScript.Script

/-- The parts of a script. -/
structure Parts where
  magic : Bytes
  stamp : Bytes
  countField : Bytes
  commands : List Command
  deriving DecidableEq, Repr

def readTimer? (bytes : Bytes) : Option (Int × Bytes) :=
  if 8 ≤ bytes.length then some (Word.decode (bytes.take 8), bytes.drop 8) else none

/-- A text and what follows the null byte that ends it. -/
def readText? (bytes : Bytes) : Option (Text × Bytes) :=
  match bytes.dropWhile (· ≠ 0) with
  | [] => none
  | _ :: rest =>
    match Utf8.decode (bytes.takeWhile (· ≠ 0)) with
    | .ok t => some (t, rest)
    | .error _ => none

theorem length_lt_of_readText? {bytes rest : Bytes} {t : Text}
    (h : readText? bytes = some (t, rest)) : rest.length < bytes.length := by
  unfold readText? at h
  split at h
  · contradiction
  · next terminator after eq =>
    split at h
    · obtain ⟨-, rfl⟩ := Prod.mk.inj (Option.some.inj h)
      have shorter := (List.dropWhile_sublist (l := bytes) (· ≠ 0)).length_le
      rw [eq] at shorter
      exact shorter
    · contradiction

def readCommand? (bytes : Bytes) : Option (Command × Bytes) :=
  match readTimer? bytes with
  | none => none
  | some (timer, rest) => do
    let (system, rest) ← readText? rest
    let (recipient, rest) ← readText? rest
    let (sender, rest) ← readText? rest
    let (verb, rest) ← readText? rest
    let (argument, rest) ← readText? rest
    return (⟨timer, system, recipient, sender, verb, argument⟩, rest)

theorem length_lt_of_readCommand? {bytes rest : Bytes} {command : Command}
    (h : readCommand? bytes = some (command, rest)) : rest.length < bytes.length := by
  unfold readCommand? at h
  split at h
  · contradiction
  · next timer after read =>
    have start : after.length ≤ bytes.length := by
      unfold readTimer? at read
      split at read
      · obtain ⟨-, rfl⟩ := Prod.mk.inj (Option.some.inj read)
        simp
      · contradiction
    simp only [Option.bind_eq_bind, Option.bind_eq_some_iff, Prod.exists, Option.pure_def,
      Option.some.injEq, Prod.mk.injEq] at h
    obtain ⟨_, _, first, _, _, second, _, _, third, _, _, fourth, _, _, fifth, -, rfl⟩ := h
    have := length_lt_of_readText? first
    have := length_lt_of_readText? second
    have := length_lt_of_readText? third
    have := length_lt_of_readText? fourth
    have := length_lt_of_readText? fifth
    omega

/-- The records that fill a byte list. -/
def readCommands? (bytes : Bytes) : Option (List Command) :=
  if bytes = [] then some []
  else match _record : readCommand? bytes with
    | none => none
    | some (command, rest) => (readCommands? rest).map (command :: ·)
  termination_by bytes.length
  decreasing_by exact length_lt_of_readCommand? _record

/-- The parts of a script whose stamp has `stampSize` bytes. -/
def decode? (stampSize : Nat) (bytes : Bytes) : Option Parts :=
  let afterMagic := bytes.drop magicSize
  let afterStamp := afterMagic.drop stampSize
  (readCommands? (afterStamp.drop countFieldSize)).map fun commands =>
    ⟨bytes.take magicSize, afterMagic.take stampSize, afterStamp.take countFieldSize, commands⟩

/-- The parts of a script for a reader that knows its stamp, which no script has beyond ASCII. -/
def decodeStamped? (stamp : Text) (bytes : Bytes) : Option Parts :=
  match stamp.encodeAscii with
  | .error _ => none
  | .ok stampBytes => decode? stampBytes.length bytes

end EventScript.Script
