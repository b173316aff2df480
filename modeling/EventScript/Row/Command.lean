import EventScript.Row.Cell
import EventScript.Row.Timer

/-!
# From rows to commands

Each row gives one command, or the first thing wrong with it: its length, then its timer, then its
texts from left to right. The first bad row ends the table, since a script that lacks a command is
worse than none.
-/

namespace EventScript.Row

def toCommand (number : Int) (row : Row) : Except Failure Command :=
  match row with
  | [timerCell, system, recipient, sender, verb, argument] => do
    let timer ← timer number timerCell
    let system ← text number "system" system
    let recipient ← text number "to" recipient
    let sender ← text number "from" sender
    let verb ← text number "command" verb
    let argument ← text number "argument" argument
    return ⟨timer, system, recipient, sender, verb, argument⟩
  | _ => .error (.refused (.rowLength number row.length))

/-- Commands of the rows before are in `done`, the last one first. -/
def toCommandsFrom (number : Int) (done : List Command) : List Row → Except Failure (List Command)
  | [] => .ok done.reverse
  | row :: rest =>
    match toCommand number row with
    | .error failure => .error failure
    | .ok command => toCommandsFrom (number + 1) (command :: done) rest

/-- The commands of a table, whose rows are numbered from one. A table without rows is refused. -/
def toCommands (rows : List Row) : Except Failure (List Command) :=
  match toCommandsFrom 1 [] rows with
  | .error failure => .error failure
  | .ok [] => .error (.refused .empty)
  | .ok commands => .ok commands

end EventScript.Row
