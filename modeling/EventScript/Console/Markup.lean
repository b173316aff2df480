import EventScript.Console.Emoji
import EventScript.Console.Handler
import EventScript.Console.Style

/-!
# Markup

Text for a console may hold tags in square brackets, which open and close styles and are not shown.
A backslash before a tag makes it text; escaped text is shown as it was before it was escaped.
-/

namespace EventScript.Markup

/-- A piece of markup: text without tags, or a tag with the backslashes before it. -/
inductive Piece
  | plain (t : Text)
  | tag (slashes : Nat) (body : Text)
  deriving DecidableEq, Repr

def slash : CodePoint := '\\'

def bracket (body : Text) : Text :=
  CodePoint.ofChar '[' :: (body ++ [CodePoint.ofChar ']'])

def Piece.text : Piece → Text
  | plain t => t
  | tag slashes body => List.replicate slashes slash ++ bracket body

/-- The text up to the first closing bracket, if no other bracket opens before it, and what
follows. -/
def untilBracket? : Text → Option (Text × Text)
  | [] => none
  | c :: rest =>
    if c = ']' then some ([], rest)
    else if c = '[' then none
    else (untilBracket? rest).map fun (body, after) => (c :: body, after)

theorem eq_of_untilBracket? {t body after : Text} (h : untilBracket? t = some (body, after)) :
    t = body ++ CodePoint.ofChar ']' :: after := by
  induction t generalizing body with
  | nil => simp [untilBracket?] at h
  | cons c rest ih =>
    simp only [untilBracket?] at h
    split at h
    · next closing =>
      obtain ⟨rfl, rfl⟩ := Prod.mk.inj (Option.some.inj h)
      simp [closing]
    · split at h
      · contradiction
      · obtain ⟨⟨inner, behind⟩, found, eq⟩ := Option.map_eq_some_iff.mp h
        obtain ⟨rfl, rfl⟩ := Prod.mk.inj eq
        simp [ih found]

def startsTag (c : CodePoint) : Bool :=
  (97 ≤ c.val && c.val ≤ 122) || c = '#' || c = '/' || c = '@'

/-- The tag that a text begins with, without its brackets, and what follows it. -/
def leadingTag? : Text → Option (Text × Text)
  | c :: d :: rest => if c = '[' ∧ startsTag d then untilBracket? (d :: rest) else none
  | _ => none

theorem eq_of_leadingTag? {t body after : Text} (h : leadingTag? t = some (body, after)) :
    t = bracket body ++ after := by
  unfold leadingTag? at h
  split at h
  · next c d rest =>
    split at h
    · next start => simp [eq_of_untilBracket? h, bracket, start.1]
    · contradiction
  · contradiction

def isSlash (c : CodePoint) : Bool :=
  c = slash

/-- The tag that a text begins with once the backslashes before it are passed over. -/
def slashedTag? (t : Text) : Option (Nat × Text × Text) :=
  (leadingTag? (t.dropWhile isSlash)).map fun (body, after) =>
    ((t.takeWhile isSlash).length, body, after)

theorem eq_of_slashedTag? {t body after : Text} {slashes : Nat}
    (h : slashedTag? t = some (slashes, body, after)) :
    t = (Piece.tag slashes body).text ++ after := by
  unfold slashedTag? at h
  obtain ⟨⟨inner, behind⟩, found, eq⟩ := Option.map_eq_some_iff.mp h
  obtain ⟨rfl, rest⟩ := Prod.mk.inj eq
  obtain ⟨rfl, rfl⟩ := Prod.mk.inj rest
  have run : t.takeWhile isSlash = List.replicate (t.takeWhile isSlash).length slash := by
    refine List.eq_replicate_iff.mpr ⟨rfl, fun c member => ?_⟩
    simpa [isSlash] using List.all_eq_true.mp List.all_takeWhile c member
  rw [Piece.text, ← run, List.append_assoc, ← eq_of_leadingTag? found]
  exact List.takeWhile_append_dropWhile.symm

def plainPiece (t : Text) : List Piece :=
  if t = [] then [] else [.plain t]

/-- `plain` is the text since the last tag, its last code point first. -/
def piecesFrom (plain : Text) (t : Text) : List Piece :=
  match _step : t with
  | [] => plainPiece plain.reverse
  | c :: rest =>
    match _tag : slashedTag? (c :: rest) with
    | some (slashes, body, after) =>
      plainPiece plain.reverse ++ .tag slashes body :: piecesFrom [] after
    | none => piecesFrom (c :: plain) rest
  termination_by t.length
  decreasing_by
    · have := congrArg List.length (eq_of_slashedTag? ‹_›)
      simp [Piece.text, bracket] at this ⊢
      omega
    · simp

def pieces (t : Text) : List Piece :=
  piecesFrom [] t

/-- A single backslash at the end would take effect on what comes after the text. -/
def guardEnd (t : Text) : Text :=
  match t.reverse with
  | [c] => if isSlash c then t ++ [slash] else t
  | c :: d :: _ => if isSlash c && !isSlash d then t ++ [slash] else t
  | [] => t

/-- The markup that shows as `t`. -/
def escape (t : Text) : Text :=
  guardEnd ((pieces t).flatMap fun
    | .plain t => t
    | .tag slashes body => List.replicate (2 * slashes + 1) slash ++ bracket body)

inductive Fault
  | unopened (body : Text) (position : Nat)
  | nothingOpen (position : Nat)
  | channel (fault : Numeral.Fault)
  | handler (fault : Handler.Fault)
  deriving DecidableEq, Repr

def Fault.message : Fault → Text
  | .unopened body position =>
    .concat ["closing tag '", bracket body, "' at position ", Numeral.digits position,
      " doesn't match any open tag"]
  | .nothingOpen position =>
    .concat ["closing tag '[/]' at position ", Numeral.digits position, " has nothing to close"]
  | .channel fault => fault.message
  | .handler fault => fault.message

/-- A backslash before a bracket that begins no tag is not shown either. -/
def unescape : Text → Text
  | [] => []
  | [c] => [c]
  | c :: d :: rest =>
    if isSlash c ∧ d = '[' then d :: unescape rest
    else c :: unescape (d :: rest)

/-- Controls that would move the cursor. -/
def isDropped (c : CodePoint) : Bool :=
  c.val == 7 || c.val == 8 || c.val == 11 || c.val == 12 || c.val == 13

/-- What a piece shows. Of two backslashes before a tag one is shown, and a single one shows the tag
instead. An emoji code counts only within one piece. -/
def Piece.shown (piece : Piece) : Text :=
  let visible := match piece with
    | .plain t => Emoji.replaceCodes (unescape t)
    | .tag slashes body =>
      List.replicate (slashes / 2) slash ++
        if slashes % 2 = 1 then Emoji.replaceCodes (bracket body) else []
  visible.filter (!isDropped ·)

/-- The text that markup shows. -/
def shown (t : Text) : Text :=
  (pieces t).flatMap Piece.shown

/-! ## Styles and handlers -/

/-- An open tag: what it is called, what stands behind an equals sign in it, and how much is shown
before it. -/
structure Opened where
  name : Text
  parameters : Option Text
  start : Nat

/-- A part of the shown text and its style. -/
structure Span where
  start : Nat
  stop : Nat
  style : Text

/-- The part up to `stop` in the style that a tag asks for. -/
def Opened.span (tag : Opened) (stop : Nat) : Span where
  start := tag.start
  stop := stop
  style := tag.name ++ tag.parameters.elim [] (CodePoint.ofChar ' ' :: ·)

def Opened.isHandler (tag : Opened) : Bool :=
  tag.name.head? = some (CodePoint.ofChar '@')

/-- How far markup has been gone through: the open tags, the innermost first, the spans of closed
ones, the latest first, and how much is shown. -/
structure Progress where
  opened : List Opened := []
  spans : List Span := []
  shown : Nat := 0

namespace Progress

def openTag (progress : Progress) (name : Text) (parameters : Option Text) : Progress :=
  { progress with opened := ⟨name, parameters, progress.shown⟩ :: progress.opened }

/-- A handler's arguments are looked at when its tag is closed. -/
def closeTag (progress : Progress) (tag : Opened) : Except Fault Progress :=
  let progress := { progress with opened := progress.opened.eraseP (·.name = tag.name) }
  if tag.isHandler then
    match Handler.fault? (tag.parameters.getD []) with
    | some fault => .error (.handler fault)
    | none => .ok progress
  else .ok { progress with spans := tag.span progress.shown :: progress.spans }

/-- The effect of a tag at `position`. -/
def takeTag (progress : Progress) (position : Nat) (body : Text) : Except Fault Progress := do
  let isName (c : CodePoint) : Bool := c ≠ '='
  let name := body.takeWhile isName
  match Text.after? "/" name with
  | none =>
    let normal ← (Style.normalName name).mapError Fault.channel
    .ok (progress.openTag normal (body.dropWhile isName).tail?)
  | some closed =>
    if closed.strip = [] then
      match progress.opened.head? with
      | none => .error (.nothingOpen position)
      | some tag => progress.closeTag tag
    else
      let normal ← (Style.normalName closed.strip).mapError Fault.channel
      match progress.opened.find? (·.name = normal) with
      | none => .error (.unopened body position)
      | some tag => progress.closeTag tag

/-- Go through pieces from `position` on. -/
def takeFrom (progress : Progress) (position : Nat) : List Piece → Except Fault Progress
  | [] => .ok progress
  | piece :: rest => do
    let progress := { progress with shown := progress.shown + piece.shown.length }
    let progress ← match piece with
      | .tag slashes body =>
        if slashes % 2 = 1 then .ok progress else progress.takeTag (position + slashes) body
      | .plain _ => .ok progress
    progress.takeFrom (position + piece.text.length) rest

/-- All spans by where they start. A tag that is not closed reaches to the end. -/
def allSpans (progress : Progress) : List Span :=
  (progress.opened.reverse.map (·.span progress.shown) ++ progress.spans).mergeSort
    fun a b => a.start ≤ b.start

end Progress

/-- Whether a span gets onto the console. Spans that hold nothing are lost where a text is broken
into lines. -/
def Span.isDrawn (t : Text) (span : Span) : Bool :=
  ((t.take span.stop).drop span.start).any (fun (c : CodePoint) => c ≠ '\n') ||
    (span.start == span.stop && t.fill consoleWidth == [t] &&
      t.all fun (c : CodePoint) => c ≠ '\t')

/-- Why a style cannot be drawn. One that only means nothing is left out. -/
def Span.fault? (span : Span) : Option Fault :=
  match Style.read span.style with
  | .error (.channel fault) => some (.channel fault)
  | _ => none

/-- Why markup cannot be shown: the first of its tags with a fault, or the first of its spans. -/
def fault? (t : Text) : Option Fault :=
  match Progress.takeFrom {} 0 (pieces t) with
  | .error fault => some fault
  | .ok progress => (progress.allSpans.filter (·.isDrawn (shown t))).findSome? Span.fault?

end EventScript.Markup
