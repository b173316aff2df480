import EventScript.Number.Word

/-!
# The script format

A script is a magic header, a version stamp without length or terminator, a count field, and one
record per command. A record is a timer of eight bytes and five texts, each ended by a null byte.
-/

namespace EventScript.Script

def magic : Bytes := [0x57, 0x54, 0x45, 0x53]

def magicSize : Nat := 4

/-- The extension of script files. -/
def extension : Text := ".sdf"

def countFieldSize : Nat := 4

/-- The largest count that the field holds without wrapping. -/
def countLimit : Nat := 255

def terminator : Bytes := [0]

/-- The stamp of scripts for which no other is asked. -/
def defaultStamp : Text := "0.1.0"

/-- The environment variable that sets another stamp. -/
def stampVariable : Text := "WTE_SCRIPT_VERSION"

end EventScript.Script
