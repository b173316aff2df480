import EventScript.Script.Layout
import EventScript.Text.Blank

/-!
# Settings of a script

The stamp has no length and no terminator in the script, so a reader has to know it. A stamp that a
user chooses is checked; settings made directly are not.
-/

namespace EventScript.Script

structure Config where
  stamp : Text
  magic : Bytes := Script.magic
  deriving DecidableEq, Repr

inductive StampFault
  | empty
  | notAscii (stamp : Text)
  | null
  deriving DecidableEq, Repr

def StampFault.message : StampFault → Text
  | .empty => "Version stamp must not be empty."
  | .notAscii stamp => .concat ["Version stamp '", stamp, "' must be ASCII text."]
  | .null => "Version stamp must not contain a null byte."

def checkStamp (stamp : Text) : Except StampFault Text :=
  if stamp = [] then .error .empty
  else if !stamp.isAscii then .error (.notAscii stamp)
  else if stamp.hasNull then .error .null
  else .ok stamp

/-- The stamp asked for, else that of the environment unless it is blank, else the usual one. -/
def chooseStamp (asked environment : Option Text) : Text :=
  match asked with
  | some stamp => stamp
  | none =>
    let stamp := (environment.getD []).strip
    if stamp = [] then defaultStamp else stamp

def Config.load (asked environment : Option Text) : Except StampFault Config :=
  match checkStamp (chooseStamp asked environment) with
  | .error fault => .error fault
  | .ok stamp => .ok { stamp }

/-- The stamp as it stands in the script. -/
def Config.stampBytes (config : Config) : Except Unencodable Bytes :=
  config.stamp.encodeAscii

end EventScript.Script
