import EventScript.Job
import EventScript.Row.Command
import EventScript.Script.Encoding
import EventScript.Source.Rows

/-!
# Compiling

Rows are read, turned into commands, encoded and written, in this order. The script is complete
before the output is touched, and an existing output is only replaced by consent.
-/

namespace EventScript

/-- Commands and script of a table. -/
def compileRows (rows : List Row) (config : Script.Config) :
    Except Failure (List Command × Bytes) := do
  let commands ← Row.toCommands rows
  let script ← Script.encode commands config
  return (commands, script)

namespace Job

/-- What a path leads to. A name that is too long for the system is not simply missing. -/
def find? (path : Path) : Job (Option Node) := do
  if (FileTree.unspeakable? path.toText).isSome then return none
  match (← tree).locate path with
  | .ok location => return (← tree).lookup location
  | .error .nameTooLong => fail (.brokeDown (.pathTooLong path))
  | .error _ => return none

def store (path : Path) (script : Bytes) : Job Unit := do
  match FileTree.unspeakable? path.toText with
  | some reason => fail (.brokeDown (.unspeakablePath reason))
  | none =>
    match (← tree).store path script with
    | .error reason => fail (.refused (.unwritable path reason))
    | .ok stored =>
      setTree stored
      emit [.written path script]

def overwriteQuestion (path : Path) : Text :=
  .concat ["Output file '", path.toText, "' exists, overwrite?"]

/-- Without anyone to ask, nothing is replaced. -/
def askConsent (path : Path) (consent : Option Consent) : Job Unit := do
  match consent with
  | none => fail (.refused (.declined path))
  | some consent =>
    let question := overwriteQuestion path
    let reply := consent question
    emit (.question question :: reply.events)
    match reply.answer with
    | .ok true => log .info .writer ["Overwriting existing script ", path.toText]
    | .ok false => fail (.refused (.declined path))
    | .error breakdown => fail (.brokeDown breakdown)

/-- Write a script, and give its size. -/
def writeScript (script : Bytes) (path : Path) (consent : Option Consent) : Job Nat := do
  if (← find? path).isSome then askConsent path consent
  store path script
  log .debug .writer ["Wrote ", Numeral.digits script.length, " bytes to ", path.toText]
  return script.length

def readRows (levels : Option Nat) (path : Path) : Job (List Row) := do
  let (format, rows) ← ofExcept (Source.rowsOfFile levels (← tree) path)
  log .debug .rows ["Read ", Numeral.digits rows.length, " rows from ", path.toText, " (",
    format.name, ")"]
  return rows

def toCommands (rows : List Row) : Job (List Command) := do
  match Row.toCommands rows with
  | .ok commands =>
    log .debug .validator ["Validated ", Numeral.digits commands.length, " commands"]
    return commands
  | .error (.refused refusal) =>
    if let some row := refusal.row? then
      log .debug .validator ["Rejected row ", Numeral.write row, ": ", refusal.message]
    fail (.refused refusal)
  | .error failure => fail failure

def encode (commands : List Command) (config : Script.Config) : Job Bytes := do
  if let some warning := Script.countWarning? commands then log .warning .encoder [warning]
  let script ← ofExcept (Script.encode commands config)
  log .debug .encoder ["Encoded ", Numeral.digits commands.length, " commands into ",
    Numeral.digits script.length, " bytes"]
  return script

end Job

/-- What a compile amounted to. -/
structure Summary where
  source : Path
  output : Path
  rowCount : Nat
  commandCount : Nat
  size : Nat
  deriving DecidableEq, Repr

/-- Compile a source file into a script file; progress is only told if somebody listens. A source
may be nested as many levels deep as there are left. -/
def compileFile (levels : Option Nat) (source output : Path) (config : Script.Config)
    (consent : Option Consent) (listened : Bool) : Job Summary := do
  let report (line : List Text) : Job Unit :=
    Job.emit (if listened then [.status (.concat line)] else [])
  report ["Parsing data file '", source.toText, "'..."]
  let rows ← Job.readRows levels source
  report [Numeral.digits rows.length, " rows read."]
  report ["Generating script file '", output.toText, "'..."]
  let commands ← Job.toCommands rows
  let script ← Job.encode commands config
  let size ← Job.writeScript script output consent
  Job.log .info .compiler ["Compiled ", source.toText, " → ", output.toText, " (",
    Numeral.digits commands.length, " commands, ", Numeral.digits size, " bytes)"]
  return ⟨source, output, rows.length, commands.length, size⟩

end EventScript
