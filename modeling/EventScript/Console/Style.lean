import EventScript.Console.Color
import EventScript.Console.Fill
import EventScript.Text.Lowercase

/-!
# Styles

A style is written as words: attributes, each perhaps after `not`, a color, a background after `on`,
and a link. Texts that describe one style have one name.
-/

namespace EventScript

structure Style where
  attributes : List (Text × Bool) := []
  color : Option Text := none
  background : Option Text := none
  link : Option Text := none

namespace Style

/-- The attributes in the order in which a name lists them, with their short forms. -/
def attributeNames : List (String × Option String) := [
    ("bold", some "b"), ("dim", some "d"), ("italic", some "i"), ("underline", some "u"),
    ("blink", none), ("blink2", none), ("reverse", some "r"), ("conceal", some "c"),
    ("strike", some "s"), ("underline2", some "uu"), ("frame", none), ("encircle", none),
    ("overline", some "o")]

/-- The full name of an attribute. -/
def attribute? (word : Text) : Option Text :=
  (attributeNames.find? fun (full, short) =>
    word = Text.ofString full || short.any (word = Text.ofString ·)).map (Text.ofString ·.1)

/-- The latest word on an attribute counts. -/
def set (style : Style) (name : Text) (on : Bool) : Style :=
  { style with attributes := (name, on) :: style.attributes }

/-- A word that is nothing else has to be a color. -/
def addWords (style : Style) : List Text → Except Color.Fault Style
  | [] => .ok style
  | word :: rest =>
    let lower := word.lower
    if lower = "on" then
      match rest with
      | [] => .error .unknown
      | color :: rest => do
        Color.check color.lower
        addWords { style with background := color.lower } rest
    else if lower = "not" then
      match rest with
      | [] => .error .unknown
      | word :: rest =>
        match attribute? word with
        | none => .error .unknown
        | some name => addWords (style.set name false) rest
    else if lower = "link" then
      match rest with
      | [] => .error .unknown
      | link :: rest => addWords { style with link } rest
    else match attribute? lower with
      | some name => addWords (style.set name true) rest
      | none => do
        Color.check lower
        addWords { style with color := lower } rest

def read (t : Text) : Except Color.Fault Style :=
  if t.strip = "none" then .ok {}
  else addWords {} ((t.words.map Text.strip).filter (· ≠ []))

def toText (style : Style) : Text :=
  let attributes := attributeNames.filterMap fun (name, _) =>
    (style.attributes.lookup (Text.ofString name)).map fun on =>
      if on then Text.ofString name else "not " ++ Text.ofString name
  let color := style.color.toList
  let background := style.background.toList.map (Text.ofString "on " ++ ·)
  let link := style.link.toList.map (Text.ofString "link " ++ ·)
  match attributes ++ color ++ background ++ link with
  | [] => "none"
  | words => Text.joinWith " " words

/-- The one name of a style. What describes none is its own name, in small letters; a faulty channel
leaves it without any. -/
def normalName (t : Text) : Except Numeral.Fault Text :=
  match read t with
  | .ok style => .ok style.toText
  | .error .unknown => .ok t.strip.lower
  | .error (.channel fault) => .error fault

end Style

end EventScript
