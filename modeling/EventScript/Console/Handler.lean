import EventScript.Console.Literal.Reader

/-!
# Handlers

A tag may name what is to happen to its text, as a name with or without arguments in parentheses, or
as any literal. The arguments have to be literals.
-/

namespace EventScript.Handler

def isNamePart (c : CodePoint) : Bool :=
  Literal.isNamePart c || c = '.'

/-- Parentheses around something on one line. -/
def isEnclosed (t : Text) : Bool :=
  t.head? = some (CodePoint.ofChar '(') && t.getLast? = some (CodePoint.ofChar ')') &&
    t.all fun (c : CodePoint) => c ≠ '\n'

/-- The literal in what a tag says of its handler: the arguments after a name, where a name alone
has none, or else all of it. -/
def literal (t : Text) : Text :=
  let t := t.strip
  let arguments := t.dropWhile isNamePart
  if arguments = [] then "()" else if isEnclosed arguments then arguments else t

structure Fault where
  parameters : Text
  fault : Literal.Fault
  deriving DecidableEq, Repr

/-- Only what is no expression at all is cited. -/
def Fault.message (fault : Fault) : Text :=
  let place := match fault.fault with
    | .grammar _ =>
      .concat [(literal fault.parameters).quoted, " in ", fault.parameters.quoted]
    | _ => fault.parameters.quoted
  .concat ["error parsing ", place, "; ", fault.fault.message]

/-- Why a handler is refused. A tag that says nothing of its handler has no arguments. -/
def fault? (parameters : Text) : Option Fault :=
  if parameters = [] then none
  else (Literal.fault? (literal parameters)).map (⟨parameters, ·⟩)

end EventScript.Handler
