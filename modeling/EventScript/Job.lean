import EventScript.Failure

/-!
# Jobs

A job works on a file tree, may fail, and lets be seen what it does. Whatever it has done to the
tree and shown before it fails remains.
-/

namespace EventScript

inductive Level
  | debug
  | info
  | warning
  deriving DecidableEq, Repr

def Level.name : Level → Text
  | debug => "DEBUG"
  | info => "INFO"
  | warning => "WARNING"

/-- The part of the compiler that a log line comes from. -/
inductive Origin
  | rows
  | validator
  | encoder
  | writer
  | compiler
  | commandLine
  deriving DecidableEq, Repr

def Origin.name : Origin → Text
  | rows => "wte_script.core.rows"
  | validator => "wte_script.core.validator"
  | encoder => "wte_script.core.encoder"
  | writer => "wte_script.core.writer"
  | compiler => "wte_script.core.compiler"
  | commandLine => "wte_script.cli"

/-- What a job lets be seen: a line about its progress, a line for the log, a question it asked,
text shown, where a prompt begins and ends, the place where the input for an answer ran out, and a
script that was written. -/
inductive Event
  | status (line : Text)
  | log (level : Level) (origin : Origin) (message : Text)
  | question (message : Text)
  | shown (t : Text)
  | promptOpened
  | promptClosed
  | awaited
  | written (path : Path) (script : Bytes)
  deriving DecidableEq, Repr

structure Outcome (α : Type) where
  tree : FileTree
  events : List Event
  result : Except Failure α

def Job (α : Type) : Type :=
  FileTree → Outcome α

namespace Job

protected def pure {α : Type} (a : α) : Job α :=
  fun tree => ⟨tree, [], .ok a⟩

protected def bind {α β : Type} (job : Job α) (next : α → Job β) : Job β :=
  fun tree =>
    let first := job tree
    match first.result with
    | .error failure => ⟨first.tree, first.events, .error failure⟩
    | .ok a =>
      let second := next a first.tree
      ⟨second.tree, first.events ++ second.events, second.result⟩

instance : Monad Job where
  pure := Job.pure
  bind := Job.bind

def emit (events : List Event) : Job Unit :=
  fun tree => ⟨tree, events, .ok ()⟩

def log (level : Level) (origin : Origin) (message : List Text) : Job Unit :=
  emit [.log level origin (.concat message)]

def ofExcept {α : Type} (result : Except Failure α) : Job α :=
  fun tree => ⟨tree, [], result⟩

def fail {α : Type} (failure : Failure) : Job α :=
  ofExcept (.error failure)

/-- Go on after a failure. -/
def attempt {α : Type} (job : Job α) : Job (Except Failure α) :=
  fun tree =>
    let outcome := job tree
    ⟨outcome.tree, outcome.events, .ok outcome.result⟩

def tree : Job FileTree :=
  fun tree => ⟨tree, [], .ok tree⟩

def setTree (tree : FileTree) : Job Unit :=
  fun _ => ⟨tree, [], .ok ()⟩

end Job

/-- The answer to a question, unless asking it breaks down, and what was seen meanwhile. -/
structure Reply where
  answer : Except Breakdown Bool
  events : List Event

/-- Whoever decides whether an existing file may be replaced. -/
abbrev Consent := Text → Reply

end EventScript
