import EventScript.Console.Cells
import EventScript.Console.Emoji.Names
import EventScript.Text.Blank
import EventScript.Text.Lowercase

/-!
# Emoji codes

A name between two colons stands for an emoji, and may say at its end whether the emoji is to be
shown as text or as a picture. A code whose name means nothing is text like any other.
-/

namespace EventScript.Emoji

def hexValue (t : Text) : Nat :=
  t.foldl (fun n c => 16 * n + c.digitValue?.getD 0) 0

/-- The names in a line with what each means. -/
def readLine (line : String) : List (Text × Text) :=
  pairs (Text.splitOn ' ' (Text.ofString line))
where
  pairs : List Text → List (Text × Text)
    | name :: codes :: rest =>
      (name, (Text.splitOn '-' codes).map (.ofNat <| hexValue ·)) :: pairs rest
    | _ => []

def plain : List (Text × Text) :=
  plainNames.flatMap readLine

def toned : List (Text × Text) :=
  tonedNames.flatMap readLine

/-- The tones of skin, with the code points that give them to an emoji. -/
def tones : List (String × Nat) := [
    ("light", 0x1F3FB), ("medium-light", 0x1F3FC), ("medium", 0x1F3FD), ("medium-dark", 0x1F3FE),
    ("dark", 0x1F3FF)]

/-- A tone follows the first code point, and makes a selector there needless. -/
def withTone (tone : CodePoint) : Text → Text
  | [] => []
  | c :: rest =>
    c :: tone :: if rest.head? = some CodePoint.emojiSelector then rest.drop 1 else rest

/-- What stands before `ending`, if the text ends with it. -/
def before? (ending t : Text) : Option Text :=
  (Text.after? ending.reverse t.reverse).map List.reverse

/-- The emoji of a name with a tone of skin. -/
def ofTonedName? (name : Text) : Option Text :=
  tones.findSome? fun (tone, modifier) =>
    (before? (.concat ["_", Text.ofString tone, "_skin_tone"]) name).bind fun person =>
      (toned.lookup person).map (withTone (.ofNat modifier))

def ofName? (name : Text) : Option Text :=
  (plain.lookup name).or ((toned.lookup name).or (ofTonedName? name))

/-- What a code may say about its emoji after the name. -/
inductive Presentation
  | usual
  | text
  | picture
  deriving DecidableEq, Repr

namespace Presentation

def written : Presentation → Text
  | usual => ":"
  | text => "-text:"
  | picture => "-emoji:"

/-- The code point that selects it. -/
def selector : Presentation → Text
  | usual => []
  | text => [.ofNat 0xFE0E]
  | picture => [CodePoint.emojiSelector]

/-- The presentation that a text begins with, and what follows it. -/
def leading? (t : Text) : Option (Presentation × Text) :=
  [picture, text, usual].findSome? fun presentation =>
    (Text.after? presentation.written t).map (presentation, ·)

theorem eq_of_leading? {t after : Text} {presentation : Presentation}
    (h : leading? t = some (presentation, after)) : t = presentation.written ++ after := by
  obtain ⟨_, _, found⟩ := List.exists_of_findSome?_eq_some h
  obtain ⟨_, follows, eq⟩ := Option.map_eq_some_iff.mp found
  obtain ⟨rfl, rfl⟩ := Prod.mk.inj eq
  exact Text.eq_append_of_after? follows

end Presentation

/-- The name that a code begins with after its first colon, up to the earliest place where the code
can end, and what follows the code. There are no blanks in a name. -/
def code? : Text → Option (Text × Presentation × Text)
  | [] => none
  | c :: rest =>
    match Presentation.leading? (c :: rest) with
    | some (presentation, after) => some ([], presentation, after)
    | none =>
      if c.isBlank then none
      else (code? rest).map fun (name, code) => (c :: name, code)

theorem eq_of_code? {t name after : Text} {presentation : Presentation}
    (h : code? t = some (name, presentation, after)) :
    t = name ++ presentation.written ++ after := by
  induction t generalizing name with
  | nil => contradiction
  | cons c rest ih =>
    simp only [code?] at h
    split at h
    · next found =>
      obtain ⟨rfl, code⟩ := Prod.mk.inj (Option.some.inj h)
      obtain ⟨rfl, rfl⟩ := Prod.mk.inj code
      exact Presentation.eq_of_leading? found
    · split at h
      · contradiction
      · obtain ⟨⟨inner, code⟩, found, eq⟩ := Option.map_eq_some_iff.mp h
        obtain ⟨rfl, rfl⟩ := Prod.mk.inj eq
        simp [ih found]

/-- The text with emoji for the codes in it. -/
def replaceCodes (t : Text) : Text :=
  match _step : t with
  | [] => []
  | c :: rest =>
    if c = ':' then
      match _code : code? rest with
      | none => c :: replaceCodes rest
      | some (name, presentation, after) =>
        let shown := match ofName? name.lower with
          | some emoji => emoji ++ presentation.selector
          | none => c :: (name ++ presentation.written)
        shown ++ replaceCodes after
    else c :: replaceCodes rest
  termination_by t.length
  decreasing_by
    · simp
    · have := congrArg List.length (eq_of_code? ‹_›)
      simp at this ⊢
      omega
    · simp

end EventScript.Emoji
