import EventScript.Json.Token

/-!
# Reading JSON

A machine takes one token at a time and knows the lists and dictionaries that are open around the
place it stands at. The first token it cannot take is where the text is refused. How many lists and
dictionaries may be open at once is up to the reader: reading goes one level deeper into its own
stack for each of them, and what the stack has room for depends on where it stands.
-/

namespace EventScript.Json

/-- A list or dictionary that awaits a value; what it holds already is listed last first. -/
inductive Frame
  | list (items : List Value)
  | dict (members : List (Text × Value)) (key : Text)

/-- What a level of nesting is made of. -/
inductive Container
  | list
  | dict
  deriving DecidableEq, Repr

/-- Why reading stops: the text is refused, or something in it is nested more deeply than the reader
can follow. -/
inductive Stop
  | refused (refusal : Refusal)
  | nested (container : Container)

/-- Whether a reader can have so many levels open; `none` is a reader that can have any number. -/
def allows (levels : Option Nat) (depth : Nat) : Bool :=
  levels.all fun most => depth ≤ most

/-- What the machine is ready to take. -/
inductive Stage
  | value
  | firstItem
  | key (members : List (Text × Value)) (mayClose : Bool)
  | colon (members : List (Text × Value)) (key : Text)
  | afterItem (items : List Value)
  | afterMember (members : List (Text × Value))
  | complete (v : Value)

/-- The complaint about a token that the stage has no use for. -/
def Stage.fault : Stage → Fault
  | .value | .firstItem => .expectingValue
  | .key _ _ => .expectingKey
  | .colon _ _ => .expectingColon
  | .afterItem _ | .afterMember _ => .expectingComma
  | .complete _ => .extraData

structure Machine where
  outer : List Frame
  stage : Stage

namespace Machine

def start : Machine := ⟨[], .value⟩

/-- Hand a finished value to the innermost open frame. -/
def deliver : List Frame → Value → Machine
  | [], v => ⟨[], .complete v⟩
  | .list items :: outer, v => ⟨outer, .afterItem (v :: items)⟩
  | .dict members key :: outer, v => ⟨outer, .afterMember ((key, v) :: members)⟩

/-- One level more, if the reader can have it open. -/
def descend (levels : Option Nat) (outer : List Frame) (container : Container) (inside : Stage) :
    Except Stop Machine :=
  if allows levels (outer.length + 1) then .ok ⟨outer, inside⟩ else .error (.nested container)

def takeValue (levels : Option Nat) (outer : List Frame) (located : Located) :
    Except Stop Machine :=
  match located.token with
  | .scalar v => .ok (deliver outer v)
  | .text t => .ok (deliver outer (.text t))
  | .openList => descend levels outer .list .firstItem
  | .openDict => descend levels outer .dict (.key [] true)
  | .badText refusal | .badNumber refusal => .error (.refused refusal)
  | _ => .error (.refused ⟨.expectingValue, located.position⟩)

def step (m : Machine) (levels : Option Nat) (located : Located) : Except Stop Machine :=
  match m.stage, located.token with
  | .value, _ => takeValue levels m.outer located
  | .firstItem, .closeList => .ok (deliver m.outer (.list []))
  | .firstItem, _ => takeValue levels (.list [] :: m.outer) located
  | .key members _, .text key => .ok ⟨m.outer, .colon members key⟩
  | .key _ _, .badText refusal => .error (.refused refusal)
  | .key members true, .closeDict => .ok (deliver m.outer (.ofMembers members.reverse))
  | .colon members key, .colon => .ok ⟨.dict members key :: m.outer, .value⟩
  | .afterItem items, .comma => .ok ⟨.list items :: m.outer, .value⟩
  | .afterItem items, .closeList => .ok (deliver m.outer (.list items.reverse))
  | .afterMember members, .comma => .ok ⟨m.outer, .key members false⟩
  | .afterMember members, .closeDict => .ok (deliver m.outer (.ofMembers members.reverse))
  | stage, _ => .error (.refused ⟨stage.fault, located.position⟩)

def run (m : Machine) (levels : Option Nat) : List Located → Except Stop Machine
  | [] => .ok m
  | located :: rest =>
    match m.step levels located with
    | .error stop => .error stop
    | .ok m => run m levels rest

theorem run_append (m : Machine) (levels : Option Nat) (front back : List Located) :
    m.run levels (front ++ back) = (m.run levels front).bind fun m => m.run levels back := by
  induction front generalizing m with
  | nil => rfl
  | cons located rest ih =>
    simp only [List.cons_append, run]
    cases m.step levels located with
    | error stop => rfl
    | ok m => exact ih m

/-- The value read, if the text may end here. -/
def finish (length : Nat) (m : Machine) : Except Stop Value :=
  match m.stage with
  | .complete v => .ok v
  | stage => .error (.refused ⟨stage.fault, length⟩)

end Machine

/-- A place in a text, counted in code points; line feeds alone end its lines. -/
structure Place where
  line : Nat
  column : Nat
  offset : Nat
  deriving DecidableEq, Repr

def Place.of (t : Text) (offset : Nat) : Place where
  line := (t.take offset).count (CodePoint.ofChar '\n') + 1
  column := ((t.take offset).reverse.takeWhile fun (c : CodePoint) => c ≠ '\n').length + 1
  offset := offset

/-- A byte order mark is for the decoder to remove; a text that has one is refused. -/
def startsWithMark (t : Text) : Bool :=
  t.head? == some (CodePoint.ofNat 0xFEFF)

def read (levels : Option Nat) (t : Text) : Except Stop Value :=
  if startsWithMark t then .error (.refused ⟨.byteOrderMark, 0⟩)
  else match Machine.start.run levels (tokens t) with
    | .error stop => .error stop
    | .ok m => m.finish t.length

/-- As many levels as are usually left when a source is read. -/
def usualLevels : Nat := 990

def Fault.message : Fault → Text
  | .byteOrderMark => "Unexpected UTF-8 BOM (decode using utf-8-sig)"
  | .expectingValue => "Expecting value"
  | .expectingKey => "Expecting property name enclosed in double quotes"
  | .expectingColon => "Expecting ':' delimiter"
  | .expectingComma => "Expecting ',' delimiter"
  | .extraData => "Extra data"
  | .controlCharacter => "Invalid control character at"
  | .unterminated => "Unterminated string starting at"
  | .badEscape => "Invalid \\escape"
  | .badUnicodeEscape => "Invalid \\uXXXX escape"
  | .numeral fault => fault.message

def Container.message (container : Container) : Text :=
  let name : Text := match container with
    | .list => "array"
    | .dict => "object"
  .concat ["maximum recursion depth exceeded while decoding a JSON ", name,
    " from a unicode string"]

/-- A faulty numeral speaks for itself; any other fault is told with its place. -/
def Place.report (place : Place) : Fault → Text
  | .numeral fault => fault.message
  | fault =>
    .concat [fault.message, ": line ", Numeral.digits place.line, " column ",
      Numeral.digits place.column, " (char ", Numeral.digits place.offset, ")"]

end EventScript.Json
