import EventScript.CommandLine.Arguments
import EventScript.CommandLine.Banner
import EventScript.CommandLine.Prompt
import EventScript.Compile
import EventScript.Output

/-!
# Runs of the command line

A run ends with status 0 after a compile, with 1 after a refusal, with 2 where the arguments are
misused, and with 130 after an interruption. A breakdown ends it without a status, and so does an
interruption before or after the part of the run that waits for one.
-/

namespace EventScript.CommandLine

/-- Where an interruption arrives: before the run has begun to work, after so many events of its
work, or when its work is done. If the next event is the writing of the script, so many of its bytes
have been written, or its file has not been opened yet. -/
inductive Interruption
  | starting
  | working (events : Nat) (bytes : Option Nat)
  | leaving

/-- What a run is given besides the files. A prompt has interruptions of its own among what is
`typed`; `levels` are those left for what a source is nested in, and `time` stands for the time in
log lines. -/
structure Invocation where
  arguments : List Text
  stampVariable : Option Text := none
  projectLink : Text := []
  typed : List Typed := []
  interruption : Option Interruption := none
  console : Console
  levels : Option Nat := some Json.usualLevels
  time : Text

inductive Ending
  | exit (status : Nat)
  | escaped (failure : Failure)

/-- What is left of a run. If the typed input ran out, `pending` is what had been shown by then. -/
structure Transcript where
  ending : Ending
  output : Text := []
  errorOutput : Text := []
  pending : Option Text := none
  tree : FileTree

/-- Say why there is no script. -/
def complain (message : Text) : Job Nat := do
  sayLine ["Error: ", message]
  return 1

def isFile (path : Path) : Job Bool := do
  match ← Job.find? path with
  | some (.file _) => return true
  | _ => return false

def consent (console : Console) (overwrite : Bool) (typed : List Typed) : Consent := fun question =>
  if overwrite then
    ⟨.ok true, [.log .debug .commandLine (.concat ["Overwrite confirmed by --yes: ", question])]⟩
  else ask console typed question

def reportSummary (console : Console) (summary : Summary) : Job Nat := do
  sayLine []
  sayLine ["Wrote data file '", summary.output.toText, "'"]
  sayLine [Numeral.digits summary.commandCount, " total commands."]
  sayLine ["Size: ", Numeral.digits summary.size, " bytes."]
  sayLine []
  showLine console (Console.styled "dim cyan" "Script conversion done!")
  return 0

/-- Compile with settings, and give the status. -/
def compileWith (invocation : Invocation) (request : Request) (config : Script.Config) :
    Job Nat := do
  showBanner invocation.console config.stamp invocation.projectLink
  let source := Path.ofText request.source
  if !(← isFile source) then
    complain (.concat ["Input file '", source.toText, "' does not exist."])
  else
    let output ← Job.ofExcept (Output.path source request.output)
    let compile := compileFile invocation.levels source output config
      (some (consent invocation.console request.overwrite invocation.typed)) true
    match ← compile.attempt with
    | .ok summary => reportSummary invocation.console summary
    | .error (.refused refusal) => complain refusal.message
    | .error failure => Job.fail failure

/-- What a run does for a request if it is left in peace. -/
def work (invocation : Invocation) (request : Request) : Job Nat :=
  match Script.Config.load none invocation.stampVariable with
  | .error fault => complain fault.message
  | .ok config => compileWith invocation request config

/-- At a prompt an interruption is an answer. -/
def isPrompting (events : List Event) : Bool :=
  events.contains .promptOpened && !events.contains .promptClosed

/-- How much has happened of a work by an interruption of it, if the interruption is one: after its
last event nothing is left to interrupt. -/
def happened? (events : List Event) (count : Nat) (bytes : Option Nat) : Option (List Event) :=
  if events.length < count || isPrompting (events.take count) then none
  else
    match events[count]?, bytes with
    | some (.written path script), some bytes =>
      some (events.take count ++ [.written path (script.take bytes)])
    | _, _ => some (events.take count)

/-- The tree that events leave. -/
def treeAfterEvents (tree : FileTree) (events : List Event) : FileTree :=
  events.foldl (fun before event =>
    match event with
    | .written path script => (before.store path script).toOption.getD before
    | _ => before) tree

def compile (invocation : Invocation) (request : Request) : Job Nat := fun tree =>
  let outcome := work invocation request tree
  match invocation.interruption with
  | none => outcome
  | some .starting => ⟨tree, [], .error (.brokeDown .interrupted)⟩
  | some (.working count bytes) =>
    match happened? outcome.events count bytes with
    | none => outcome
    | some events =>
      ⟨treeAfterEvents tree events, events ++ [.shown "\nCancelled by user.\n"], .ok 130⟩
  | some .leaving =>
    { outcome with result := outcome.result.bind fun _ => .error (.brokeDown .interrupted) }

/-- How an event is written. Without further wishes only warnings of the log are. -/
def eventText (time : Text) (verbose : Bool) : Event → Text
  | .status line => line ++ "\n"
  | .log level origin message =>
    if verbose || level == .warning then
      .concat [time, " ", origin.name, " ", level.name, " ", message, "\n"]
    else []
  | .question _ | .promptOpened | .promptClosed | .awaited | .written _ _ => []
  | .shown t => t

def Ending.ofResult : Except Failure Nat → Ending
  | .ok status => .exit status
  | .error failure => .escaped failure

def run (invocation : Invocation) (tree : FileTree) : Transcript :=
  match parse invocation.arguments with
  | .error misuse => { ending := .exit 2, errorOutput := complaint misuse, tree }
  | .ok .help => { ending := .exit 0, output := help, tree }
  | .ok .version => { ending := .exit 0, output := versionLine, tree }
  | .ok (.compile request) =>
    let outcome := compile invocation request tree
    let textOf (events : List Event) := events.flatMap (eventText invocation.time request.verbose)
    { ending := .ofResult outcome.result
      errorOutput := textOf outcome.events
      pending := if outcome.events.contains .awaited then
          some (textOf (outcome.events.takeWhile (· ≠ .awaited))) else none
      tree := outcome.tree }

/-- The paths that decide about a run. -/
def concerns (arguments : List Text) : List Path :=
  match parse arguments with
  | .ok (.compile request) =>
    let source := Path.ofText request.source
    source :: (Output.path source request.output).toOption.toList
  | _ => []

end EventScript.CommandLine
