import EventScript.Console
import EventScript.Console.Fill
import EventScript.Console.Markup

/-!
# The standard console

The console that the program is given: 80 columns wide, with the markup that is read in the modules
next to this one, and without colors.
-/

namespace EventScript.Console.Standard

/-- Only the numeral of a channel is no fault of the markup itself. -/
def faultOf (fault : Markup.Fault) : Console.Fault :=
  match fault with
  | .channel _ => ⟨"ValueError", fault.message⟩
  | _ => ⟨"MarkupError", fault.message⟩

def render (markup : Text) (layOut : Text → Text) : Except Console.Fault Text :=
  match Markup.fault? markup with
  | some fault => .error (faultOf fault)
  | none => .ok (layOut (Markup.shown markup))

def line (markup : Text) : Except Console.Fault Text :=
  render markup fun shown =>
    .joinWith "\n" ((shown.fill consoleWidth).map (Text.highlight consoleWidth)) ++ "\n"

def question (markup : Text) : Except Console.Fault Text :=
  render markup fun shown => .joinWith "\n" ((shown ++ " [y/n] (y): ").fill consoleWidth)

end Standard

def standard : Console where
  line := Standard.line
  question := Standard.question
  escape := Markup.escape

end EventScript.Console
