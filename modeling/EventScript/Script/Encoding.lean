import EventScript.Script.Buffer

/-!
# Encoding scripts

The count field holds the number of commands modulo 256; longer lists are warned about and stored in
full.
-/

namespace EventScript.Script

def writeScript (commands : List Command) (config : Config) : Writing Unit := do
  writeHeader config
  writeCount commands.length
  writeCommands commands

def encode (commands : List Command) (config : Config) : Except Failure Bytes :=
  match (writeScript commands config).on .empty with
  | (buffer, none) => .ok buffer.toList
  | (_, some failure) => .error failure

/-- The warning about a list that the count field cannot count. -/
def countWarning? (commands : List Command) : Option Text :=
  if countLimit < commands.length then
    some (.concat [Numeral.digits commands.length, " commands exceed the count field's limit of ",
      Numeral.digits countLimit, "; the stored count wraps to ",
      Numeral.digits (commands.length % 256), " (all records are still written)"])
  else none

end EventScript.Script
