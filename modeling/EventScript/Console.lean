import EventScript.Text.Basic

/-!
# Consoles

A run shows its title and its last line on a console, and asks there. The console has a markup of
its own: words in brackets open and close styles, which a text between them may disturb unless it is
escaped. How the markup is laid out is the console's business and not the compiler's.
-/

namespace EventScript

/-- What a console says of markup that it cannot follow, and what it calls such a fault. -/
structure Console.Fault where
  kind : Text
  message : Text

structure Console where
  /-- A line as it is shown. -/
  line : Text → Except Console.Fault Text
  /-- A question as it is shown, with the answers there are to it. -/
  question : Text → Except Console.Fault Text
  /-- A text of which nothing is markup. -/
  escape : Text → Text

namespace Console

/-- A text between the tags of a style. -/
def styled (style t : Text) : Text :=
  .concat ["[", style, "]", t, "[/", style, "]"]

/-- Whether the letters of a text are all there is to it: none of it could be markup. -/
def isPlain (t : Text) : Bool :=
  t.all fun (c : CodePoint) => c ≠ '[' && c ≠ ']' && c ≠ '\\' && c ≠ ':'

/-- The styles in use. -/
def styles : List Text := ["cyan", "dim cyan", "dim yellow", "yellow"]

/-- What a console promises: text in a style is shown if it is plain or escaped, and an escaped text
in a style is asked. -/
structure Lawful (console : Console) : Prop where
  shows_plain : ∀ style ∈ styles, ∀ t, isPlain t = true →
    ∃ shown, console.line (styled style t) = .ok shown
  shows_escaped : ∀ style ∈ styles, ∀ t, ∃ shown,
    console.line (styled style (console.escape t)) = .ok shown
  asks_escaped : ∀ style ∈ styles, ∀ t, ∃ shown,
    console.question (styled style (console.escape t)) = .ok shown

end Console

end EventScript
