import EventScript.Failure
import EventScript.Script.Config

/-!
# Script buffers

A buffer only grows. What a failing operation has appended before it failed stays: nothing, except
that a command may leave its timer and the texts before the one that cannot be stored.
-/

namespace EventScript.Script

structure Buffer where
  bytes : Array UInt8
  deriving DecidableEq, Repr

/-- An operation on a buffer, which keeps what it appended even if it fails. -/
abbrev Writing := ExceptT Failure (StateM Buffer)

namespace Buffer

def empty : Buffer := ⟨#[]⟩

def toList (buffer : Buffer) : Bytes :=
  buffer.bytes.toList

def length (buffer : Buffer) : Nat :=
  buffer.bytes.size

def append (buffer : Buffer) (bytes : Bytes) : Buffer :=
  ⟨buffer.bytes ++ bytes⟩

@[simp] theorem toList_empty : empty.toList = [] := rfl

@[simp] theorem length_toList (buffer : Buffer) : buffer.toList.length = buffer.length :=
  Array.length_toList

@[simp] theorem toList_append (buffer : Buffer) (bytes : Bytes) :
    (buffer.append bytes).toList = buffer.toList ++ bytes := by
  simp [append, toList]

end Buffer

/-- Carry out an operation: the buffer after it, and why it failed if it did. -/
def Writing.on (writing : Writing Unit) (buffer : Buffer) : Buffer × Option Failure :=
  match writing.run.run buffer with
  | (.ok (), after) => (after, none)
  | (.error failure, after) => (after, some failure)

def writeBytes (bytes : Bytes) : Writing Unit :=
  modify fun buffer => buffer.append bytes

def refuse (fault : EncodingFault) : Writing Unit :=
  throw (.refused (.encoding fault))

/-- The refusal of a timer shows it, unless it is too long to be written. -/
def writeTimer (timer : Int) : Writing Unit :=
  if Word.least ≤ timer ∧ timer ≤ Word.greatest then writeBytes (Word.encode timer)
  else if Numeral.isWritable timer then refuse (.timer timer)
  else throw (.brokeDown (.numeral .unwritable))

def writeText (t : Text) : Writing Unit :=
  if t.hasNull then refuse (.nullInText t)
  else match Utf8.encode t with
    | .error run => refuse (.textNotUtf8 t run)
    | .ok bytes => writeBytes (bytes ++ terminator)

/-- Only the first byte of the field carries the count. -/
def countField (count : Int) : Bytes :=
  UInt8.ofNat (count % 256).toNat :: List.replicate (countFieldSize - 1) 0

def writeCount (count : Int) : Writing Unit :=
  writeBytes (countField count)

def writeHeader (config : Config) : Writing Unit :=
  if config.magic.length ≠ magicSize then refuse (.magicSize config.magic.length)
  else match config.stampBytes with
    | .error run => refuse (.stampNotAscii run)
    | .ok stamp =>
      if config.stamp = [] ∨ config.stamp.hasNull then refuse (.stamp config.stamp)
      else writeBytes (config.magic ++ stamp)

def writeTexts : List Text → Writing Unit
  | [] => pure ()
  | t :: rest => do
    writeText t
    writeTexts rest

def writeCommand (command : Command) : Writing Unit := do
  writeTimer command.timer
  writeTexts command.texts

def writeCommands : List Command → Writing Unit
  | [] => pure ()
  | command :: rest => do
    writeCommand command
    writeCommands rest

end EventScript.Script
