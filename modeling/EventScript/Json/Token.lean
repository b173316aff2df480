import EventScript.Json.Number

/-!
# Tokens of a JSON text

The text is cut into tokens without regard to how they fit together. What cannot be a token is the
last one, and none that a reader accepts; the reader may have an earlier reason to refuse the text.
-/

namespace EventScript.Json

/-- Why a text is refused. -/
inductive Fault
  | byteOrderMark
  | expectingValue
  | expectingKey
  | expectingColon
  | expectingComma
  | extraData
  | controlCharacter
  | unterminated
  | badEscape
  | badUnicodeEscape
  | numeral (fault : Numeral.Fault)
  deriving DecidableEq, Repr

/-- A fault and the place in the text that it is reported for. -/
structure Refusal where
  fault : Fault
  position : Nat
  deriving DecidableEq, Repr

inductive Token
  | openList
  | closeList
  | openDict
  | closeDict
  | colon
  | comma
  | text (t : Text)
  | scalar (v : Value)
  | badText (refusal : Refusal)
  | badNumber (refusal : Refusal)
  | stray

/-- Nothing can be read from here on. -/
def Token.isBroken : Token → Bool
  | .badText _ | .badNumber _ | .stray => true
  | _ => false

structure Located where
  position : Nat
  token : Token

def isSpace (c : CodePoint) : Bool :=
  c = ' ' || c = '\t' || c = '\n' || c = '\r'

def hexValue? (c : CodePoint) : Option Nat :=
  match c.digitValue? with
  | some d => if d < 16 then some d else none
  | none => none

/-- The number of four hexadecimal digits. A text must go on after them, for its closing mark. -/
def hexFour? : Text → Option Nat
  | a :: b :: c :: d :: _ :: _ => do
    let a ← hexValue? a
    let b ← hexValue? b
    let c ← hexValue? c
    let d ← hexValue? d
    some (((a * 16 + b) * 16 + c) * 16 + d)
  | _ => none

def simpleEscape? (c : CodePoint) : Option CodePoint :=
  if c = '"' ∨ c = '\\' ∨ c = '/' then some c
  else if c = 'b' then some '\x08'
  else if c = 'f' then some '\x0c'
  else if c = 'n' then some '\n'
  else if c = 'r' then some '\r'
  else if c = 't' then some '\t'
  else none

/-- The second half of a surrogate pair, if an escape for one comes next. -/
def lowHalf? : Text → Option Nat
  | a :: b :: rest =>
    if a = '\\' ∧ b = 'u' then
      match hexFour? rest with
      | some n => if 0xDC00 ≤ n ∧ n ≤ 0xDFFF then some n else none
      | none => none
    else none
  | _ => none

/-- What a backslash at `position` begins: the code point and how many code points follow the
backslash. The escapes of both halves of a surrogate pair are one. -/
def scanEscape (start position : Nat) : Text → Except Refusal (CodePoint × Nat)
  | [] => .error ⟨.unterminated, start⟩
  | c :: rest =>
    if c = 'u' then
      match hexFour? rest with
      | none => .error ⟨.badUnicodeEscape, position + 1⟩
      | some high =>
        match if 0xD800 ≤ high ∧ high ≤ 0xDBFF then lowHalf? (rest.drop 4) else none with
        | some low => .ok (.ofNat (0x10000 + (high - 0xD800) * 0x400 + (low - 0xDC00)), 11)
        | none => .ok (.ofNat high, 5)
    else match simpleEscape? c with
      | some escaped => .ok (escaped, 1)
      | none => .error ⟨.badEscape, position⟩

/-- The text whose opening mark is at `start`, and the position after its closing mark. -/
def scanText (start position : Nat) (done t : Text) : Except Refusal (Text × Nat) :=
  match t with
  | [] => .error ⟨.unterminated, start⟩
  | c :: rest =>
    if c = '"' then .ok (done.reverse, position + 1)
    else if c = '\\' then
      match scanEscape start position rest with
      | .error refusal => .error refusal
      | .ok (escaped, length) =>
        scanText start (position + 1 + length) (escaped :: done) (rest.drop length)
    else if c.val < 0x20 then .error ⟨.controlCharacter, position⟩
    else scanText start (position + 1) (c :: done) rest
  termination_by t.length
  decreasing_by
    · simp only [List.length_drop, List.length_cons]
      omega
    · simp

/-- Words and the values they stand for; the numbers among them have no digits. -/
def words : List (Text × Value) := [
  ("null", .null), ("true", .bool true), ("false", .bool false), ("NaN", .double .nan),
  ("Infinity", .double (.infinite false)), ("-Infinity", .double (.infinite true))]

/-- The token at the head of a text and its length. -/
def scanToken (position : Nat) (c : CodePoint) (rest : Text) : Token × Nat :=
  if c = '[' then (.openList, 1)
  else if c = ']' then (.closeList, 1)
  else if c = '\x7b' then (.openDict, 1)
  else if c = '\x7d' then (.closeDict, 1)
  else if c = ':' then (.colon, 1)
  else if c = ',' then (.comma, 1)
  else if c = '"' then
    match scanText position (position + 1) [] rest with
    | .ok (t, ending) => (.text t, ending - position)
    | .error refusal => (.badText refusal, 1)
  else match words.find? fun (word, _) => word.isPrefixOf (c :: rest) with
    | some (word, v) => (.scalar v, word.length)
    | none =>
      match NumberLiteral.scan? (c :: rest) with
      | none => (.stray, 1)
      | some literal =>
        match literal.toValue with
        | .ok v => (.scalar v, literal.length)
        | .error fault => (.badNumber ⟨.numeral fault, position⟩, 1)

/-- Tokens found so far are in `done`, the last one first. -/
def tokensFrom (done : List Located) (position : Nat) (t : Text) : List Located :=
  match t with
  | [] => done.reverse
  | c :: rest =>
    if isSpace c then tokensFrom done (position + 1) rest
    else
      let (token, length) := scanToken position c rest
      if token.isBroken then (⟨position, token⟩ :: done).reverse
      else tokensFrom (⟨position, token⟩ :: done) (position + length) (rest.drop (length - 1))
  termination_by t.length
  decreasing_by
    · simp
    · simp only [List.length_drop, List.length_cons]
      omega

def tokens (t : Text) : List Located :=
  tokensFrom [] 0 t

end EventScript.Json
