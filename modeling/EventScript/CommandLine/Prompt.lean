import EventScript.Job
import EventScript.Text.Lowercase

/-!
# The prompt

A question is asked until an answer decides it. An empty line means yes; the end of the input and an
interruption mean no. Input that is no text is not provided for.
-/

namespace EventScript.CommandLine

/-- What a prompt reads at once. -/
inductive Typed
  | line (t : Text)
  | finished
  | interrupted
  | garbled (fault : Utf8.Fault)
  deriving DecidableEq, Repr

/-- A line as it was typed, without the line feed that ends it. -/
def withoutFeed (t : Text) : Text :=
  if t.getLast? = some (CodePoint.ofChar '\n') then t.dropLast else t

/-- What a typed line says, if it says anything. -/
def verdict? (line : Text) : Option Bool :=
  if line = [] then some true
  else
    let word := line.strip.lower
    if word = "y" then some true
    else if word = "n" then some false
    else none

/-- Ask until something decides. -/
def answerFrom (prompt : Text) : List Typed → Reply
  | .line t :: rest =>
    match verdict? (withoutFeed t) with
    | some granted => ⟨.ok granted, [.shown prompt, .promptClosed]⟩
    | none =>
      let reply := answerFrom prompt rest
      ⟨reply.answer, .shown prompt :: .shown "Please enter Y or N\n" :: reply.events⟩
  | .finished :: _ | .interrupted :: _ =>
    ⟨.ok false, [.shown prompt, .promptClosed, .shown "\n"]⟩
  | .garbled fault :: _ => ⟨.error (.garbledInput fault), [.shown prompt, .promptClosed]⟩
  | [] => ⟨.ok false, [.shown prompt, .awaited, .promptClosed, .shown "\n"]⟩

/-- Ask on the console. Nothing in the question counts as markup. -/
def ask (console : Console) (typed : List Typed) : Consent := fun question =>
  match console.question (Console.styled "yellow" (console.escape question)) with
  | .error fault => ⟨.error (.console fault), []⟩
  | .ok prompt =>
    let reply := answerFrom prompt typed
    ⟨reply.answer, .promptOpened :: reply.events⟩

end EventScript.CommandLine
