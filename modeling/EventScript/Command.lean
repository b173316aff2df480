import EventScript.Text.Basic

/-!
# Commands

One message to the engine: the tick it is sent at, the parties it concerns, and what it says.
-/

namespace EventScript

structure Command where
  timer : Int
  system : Text
  recipient : Text
  sender : Text
  verb : Text
  argument : Text
  deriving DecidableEq, Repr

namespace Command

/-- The five texts in the order in which they are stored. -/
def texts (c : Command) : List Text :=
  [c.system, c.recipient, c.sender, c.verb, c.argument]

/-- What messages call the five texts. -/
def textNames : List Text :=
  ["system", "to", "from", "command", "argument"]

/-- The columns of a source row: the timer and the five texts. -/
def columnCount : Nat :=
  1 + textNames.length

end Command

end EventScript
