import EventScript.Console.Literal.Token

/-!
# Literals

A literal is an expression that needs no evaluation: a number, a quoted text, a constant, or a
tuple, set or dictionary of literals. A text is refused first where it is no expression at all, then
where the expression is none of these.

A reading with hints is tried after one without them has failed. It looks at each place for a likely
mistake, and the first one that it meets names the flaw.
-/

namespace EventScript.Literal

inductive Fault
  | grammar (flaw : Flaw)
  | notLiteral
  | unhashable (kind : Text)
  deriving DecidableEq, Repr

def Fault.message : Fault → Text
  | .grammar flaw => flaw.message
  | .notLiteral => "malformed node or string"
  | .unhashable kind => .concat ["unhashable type: '", kind, "'"]

/-- What an expression is worth as a literal. A tuple of what cannot be an element of a set cannot
be one either. -/
inductive Worth
  | number (imaginary : Bool)
  | signed (imaginary : Bool)
  | constant
  | unhashable (kind : Text)
  | refused (fault : Fault)

/-- An expression as far as faults tell of it: what it is called, and what it is worth. -/
structure Expression where
  noun : Text
  worth : Worth
  name : Option Text := none

namespace Expression

/-- An expression that is not a literal. -/
def evaluated (noun : Text) : Expression :=
  ⟨noun, .refused .notLiteral, none⟩

def fault? (e : Expression) : Option Fault :=
  match e.worth with
  | .refused fault => some fault
  | _ => none

/-- The first of several that refuses, or the first that cannot be hashed. -/
def tuple (items : List Expression) : Expression where
  noun := "tuple"
  worth :=
    match items.findSome? fault? with
    | some fault => .refused fault
    | none =>
      match items.findSome? fun item =>
        match item.worth with
        | .unhashable kind => some kind
        | _ => none with
      | some kind => .unhashable kind
      | none => .constant

/-- Elements and keys are looked at in order, each for both reasons. -/
def hashFault? (e : Expression) : Option Fault :=
  match e.worth with
  | .refused fault => some fault
  | .unhashable kind => some (.unhashable kind)
  | _ => none

def set (items : List Expression) : Expression where
  noun := "set display"
  worth := ((items.findSome? hashFault?).map Worth.refused).getD (.unhashable "set")

def dict (members : List (Expression × Expression)) : Expression where
  noun := "dict literal"
  worth :=
    let fault? := members.findSome? fun (key, value) =>
      key.fault?.or (value.fault?.or key.hashFault?)
    (fault?.map Worth.refused).getD (.unhashable "dict")

def signed (e : Expression) : Expression where
  noun := "expression"
  worth :=
    match e.worth with
    | .number imaginary => .signed imaginary
    | _ => .refused .notLiteral

/-- A real number and an imaginary one after it are one complex number. -/
def sum (left right : Expression) : Expression where
  noun := "expression"
  worth :=
    match left.worth, right.worth with
    | .number false, .number true | .signed false, .number true => .constant
    | _, _ => .refused .notLiteral

end Expression

/-- What came of reading at a place: something and what follows it, nothing, or a flaw that refuses
the whole text. -/
inductive Outcome (α : Type)
  | found (a : α) (rest : List Located)
  | nothing
  | flawed (flaw : Flaw)

namespace Outcome

def andThen {α β : Type} (outcome : Outcome α) (next : α → List Located → Outcome β) : Outcome β :=
  match outcome with
  | found a rest => next a rest
  | nothing => .nothing
  | flawed flaw => .flawed flaw

/-- Where nothing is found, go on otherwise. -/
def orElse {α : Type} (outcome : Outcome α) (other : Unit → Outcome α) : Outcome α :=
  match outcome with
  | nothing => other ()
  | outcome => outcome

end Outcome

/-- Take the next token. A stop is a flaw for whoever gets to it. -/
def next : List Located → Outcome Token
  | [] => .nothing
  | ⟨.stop flaw, _⟩ :: _ => .flawed flaw
  | located :: rest => .found located.token rest

def startsWith (token : Token) (ts : List Located) : Bool :=
  (ts.head?.map (·.token == token)).getD false

/-- Take one certain mark. -/
def expect (m : Text) (ts : List Located) : Outcome Unit :=
  (next ts).andThen fun token rest => if token = .mark m then .found () rest else .nothing

def reserved : List Text :=
  (["False", "None", "True", "and", "as", "assert", "async", "await", "break", "class", "continue",
    "def", "del", "elif", "else", "except", "finally", "for", "from", "global", "if", "import",
    "in", "is", "lambda", "nonlocal", "not", "or", "pass", "raise", "return", "try", "while",
    "with", "yield"] : List String).map Text.ofString

/-- The words that are literals by themselves. -/
def constants : List Text :=
  (["None", "True", "False"] : List String).map Text.ofString

/-- Names that were statements once. -/
def statements : List Text :=
  (["print", "exec"] : List String).map Text.ofString

def Expression.isStatement (e : Expression) : Bool :=
  e.name.any statements.contains

/-- Operators between two operands, those that bind least first. -/
def operators : List (List (List Token)) :=
  [[[.name "or"]], [[.name "and"]], [],
    (["==", "!=", "<>", "<=", "<", ">=", ">"].map fun m => [.mark m]) ++
      [[.name "not", .name "in"], [.name "in"], [.name "is", .name "not"], [.name "is"]],
    [[.mark "|"]], [[.mark "^"]], [[.mark "&"]], [[.mark "<<"], [.mark ">>"]],
    [[.mark "+"], [.mark "-"]], [[.mark "*"], [.mark "/"], [.mark "//"], [.mark "%"], [.mark "@"]]]

/-- The levels of the operators `not` and `|`, and that of `+`. -/
def notLevel : Nat := 2
def unionLevel : Nat := 4
def sumLevel : Nat := 8

/-- An operator of a level at the head, and what follows it. -/
def operator? (level : Nat) (ts : List Located) : Option (List Located) :=
  (operators.getD level []).findSome? fun operator =>
    if operator.isPrefixOf (ts.map Located.token) then some (ts.drop operator.length) else none

/-- What two operands of a level make. -/
def combine (level : Nat) (left right : Expression) : Expression :=
  if level = sumLevel then .sum left right
  else .evaluated (if level = notLevel + 1 then "comparison" else "expression")

/-- A run of quoted texts is one text. -/
def quotedRun (quoting : Quoting) (ts : List Located) : Outcome Expression :=
  go [quoting] ts
where
  go (quotings : List Quoting) : List Located → Outcome Expression
    | ⟨.quoted quoting, _⟩ :: rest => go (quoting :: quotings) rest
    | ⟨.stop flaw, _⟩ :: _ => .flawed flaw
    | rest =>
      if quotings.contains .bytes ∧ !quotings.all (· == .bytes) then .flawed .mixedTexts
      else if quotings.contains .formatted then .found (.evaluated "f-string expression") rest
      else .found ⟨"literal", .constant, none⟩ rest

/-- Names that a quoted text or another expression may follow without a comma being meant. -/
def isLoose : List Located → Bool
  | ⟨.name t, _⟩ :: rest =>
    (t = "match" || t = "case" || t = "_") || (!reserved.contains t &&
      (rest.head?.any fun located => match located.token with
        | .quoted _ => true
        | _ => false))
  | _ => false

/-- Whether the last token before `rest` stands inside brackets. -/
def endsInside (ts rest : List Located) : Bool :=
  ((ts.take (ts.length - rest.length)).getLast?.map fun located => decide (0 < located.depth)).getD
    false

/-- A list or call that has been read up to its next separator: `ts` may hold another item. -/
abbrev Reader (α : Type) := List Located → Outcome α

/-- Items with commas between them, and perhaps one after them. -/
def itemsFrom {α : Type} (item : Reader α) : Nat → List α → List Located → Outcome (List α)
  | 0, items, ts => .found items.reverse ts
  | fuel + 1, items, ts =>
    if startsWith (.mark ",") ts then
      match item (ts.drop 1) with
      | .found a rest => itemsFrom item fuel (a :: items) rest
      | .nothing => .found items.reverse (ts.drop 1)
      | .flawed flaw => .flawed flaw
    else .found items.reverse ts

/-- The name before an equals sign. -/
def keyword? : List Located → Option Text
  | ⟨.name t, _⟩ :: rest => if startsWith (.mark "=") rest then some t else none
  | _ => none

mutual

/-- An expression. With `hints`, what stands right behind it is looked at too. -/
def expression (hints : Bool) : Nat → Reader Expression
  | 0, _ => .nothing
  | fuel + 1, ts =>
    (operation hints 0 fuel ts).andThen fun first rest =>
      match if hints then neighbour fuel first ts rest else .nothing with
      | .flawed flaw => .flawed flaw
      | _ => choice hints fuel first rest

/-- Inside brackets an expression right behind another lacks a comma. -/
def neighbour (fuel : Nat) (first : Expression) (ts rest : List Located) : Outcome Unit :=
  match fuel with
  | 0 => .nothing
  | fuel + 1 =>
    match if isLoose ts then .nothing else expression false fuel rest with
    | .flawed flaw => .flawed flaw
    | .found _ behind =>
      if !first.isStatement && endsInside rest behind then .flawed .missingComma
      else statement fuel ts rest
    | .nothing => statement fuel ts rest

/-- A name that stands like a statement lacks the parentheses of a call. What could also be an
operand of the name has been looked at already. -/
def statement (fuel : Nat) (ts rest : List Located) : Outcome Unit :=
  match fuel with
  | 0 => .nothing
  | fuel + 1 =>
    match ts with
    | ⟨.name t, _⟩ :: behind =>
      let spoken := statements.contains t
      let seen := ["+", "-", "*"].any fun m => startsWith (.mark (Text.ofString m)) behind
      if reserved.contains t || startsWith (.mark "(") behind ||
        !(spoken || (!seen && behind.length == rest.length)) then .nothing
      else
        let follower := if startsWith (.mark "*") behind
          then operation false unionLevel fuel (behind.drop 1) else expression (!seen) fuel behind
        follower.andThen fun _ _ => if spoken then .flawed (.uncalled t) else .nothing
    | _ => .nothing

/-- What a condition after an expression makes of it. -/
def choice (hints : Bool) (fuel : Nat) (first : Expression) (rest : List Located) :
    Outcome Expression :=
  match fuel with
  | 0 => .nothing
  | fuel + 1 =>
    if startsWith (.name "if") rest then
      match operation hints 0 fuel (rest.drop 1) with
      | .flawed flaw => .flawed flaw
      | .nothing => .found first rest
      | .found _ behind =>
        if startsWith (.name "else") behind then
          match expression hints fuel (behind.drop 1) with
          | .flawed flaw => .flawed flaw
          | .nothing => .found first rest
          | .found _ behind => .found (.evaluated "conditional expression") behind
        else if hints && !startsWith (.mark ":") behind then .flawed .missingElse
        else .found first rest
    else .found first rest

/-- Operands and operators from a level on. -/
def operation (hints : Bool) (level : Nat) : Nat → Reader Expression
  | 0, _ => .nothing
  | fuel + 1, ts =>
    if level = notLevel ∧ startsWith (.name "not") ts then
      (operation hints notLevel fuel (ts.drop 1)).andThen fun _ rest =>
        .found (.evaluated "expression") rest
    else if level < operators.length then
      (operation hints (level + 1) fuel ts).andThen fun left rest =>
        operandsFrom hints level fuel left rest
    else factor hints fuel ts

/-- More operands of one level. -/
def operandsFrom (hints : Bool) (level : Nat) (fuel : Nat) (left : Expression)
    (ts : List Located) : Outcome Expression :=
  match fuel with
  | 0 => .nothing
  | fuel + 1 =>
    match ts with
    | ⟨.stop flaw, _⟩ :: _ => .flawed flaw
    | _ =>
      match operator? level ts with
      | none => .found left ts
      | some behind =>
        match operation hints (level + 1) fuel behind with
        | .flawed flaw => .flawed flaw
        | .nothing => .found left ts
        | .found right rest => operandsFrom hints level fuel (combine level left right) rest

/-- An operand with a sign or a power. -/
def factor (hints : Bool) : Nat → Reader Expression
  | 0, _ => .nothing
  | fuel + 1, ts =>
    (next ts).andThen fun token rest =>
      if token = .mark "+" ∨ token = .mark "-" then
        (factor hints fuel rest).andThen fun operand rest => .found operand.signed rest
      else if token = .mark "~" then
        (factor hints fuel rest).andThen fun _ rest => .found (.evaluated "expression") rest
      else
        (atom hints fuel ts).andThen fun first rest =>
          (trailers hints fuel first rest).andThen fun base rest =>
            if startsWith (.mark "**") rest then
              match factor hints fuel (rest.drop 1) with
              | .flawed flaw => .flawed flaw
              | .nothing => .found base rest
              | .found _ rest => .found (.evaluated "expression") rest
            else .found base rest

/-- Attributes and calls behind an expression. -/
def trailers (hints : Bool) (fuel : Nat) (first : Expression) (ts : List Located) :
    Outcome Expression :=
  match fuel with
  | 0 => .nothing
  | fuel + 1 =>
    match ts with
    | ⟨.stop flaw, _⟩ :: _ => .flawed flaw
    | ⟨.mark m, _⟩ :: rest =>
      if m = "." then
        match next rest with
        | .flawed flaw => .flawed flaw
        | .found (.name t) behind =>
          if reserved.contains t then .found first ts
          else trailers hints fuel (.evaluated "attribute") behind
        | _ => .found first ts
      else if m = "(" then
        match arguments hints fuel rest with
        | .flawed flaw => .flawed flaw
        | .nothing => .found first ts
        | .found count behind =>
          let call : Expression :=
            if count = 0 ∧ first.name = some "set" then ⟨"function call", .unhashable "set", none⟩
            else .evaluated "function call"
          trailers hints fuel call behind
      else .found first ts
    | _ => .found first ts

/-- The arguments of a call up to the closing bracket, and how many they are. -/
def arguments (hints : Bool) : Nat → Reader Nat
  | 0, _ => .nothing
  | fuel + 1, ts =>
    (next ts).andThen fun token rest =>
      if token = .mark ")" then .found 0 rest
      else
        (argument hints fuel ts).andThen fun first rest =>
          (itemsFrom (argument hints fuel) rest.length [first] rest).andThen fun items rest =>
            (expect ")" rest).andThen fun _ rest => .found items.length rest

/-- One argument, which may be named or unpacked. -/
def argument (hints : Bool) : Nat → Reader Expression
  | 0, _ => .nothing
  | fuel + 1, ts =>
    (next ts).andThen fun token rest =>
      if token = .mark "*" ∨ token = .mark "**" then expression hints fuel rest
      else
        match keyword? ts with
        | some word =>
          if constants.contains word ∧ hints then .flawed (.keyword word)
          else if reserved.contains word then .nothing
          else expression hints fuel (rest.drop 1)
        | none =>
          (boundName hints fuel ts).orElse fun _ =>
            (expression hints fuel ts).andThen fun e rest =>
              if startsWith (.mark "=") rest then if hints then .flawed .argument else .nothing
              else if startsWith (.mark ":=") rest then .nothing
              else .found e rest

/-- A name that is given a value where it stands. -/
def boundName (hints : Bool) : Nat → Reader Expression
  | 0, _ => .nothing
  | fuel + 1, ts =>
    match ts with
    | ⟨.name t, _⟩ :: rest =>
      if !reserved.contains t && startsWith (.mark ":=") rest then
        (expression hints fuel (rest.drop 1)).andThen fun _ rest =>
          .found (.evaluated "named expression") rest
      else .nothing
    | _ => .nothing

/-- An expression that may give a name its value. With `hints`, an assignment is a flaw. -/
def named (hints : Bool) : Nat → Reader Expression
  | 0, _ => .nothing
  | fuel + 1, ts =>
    match ts with
    | ⟨.name t, _⟩ :: rest =>
      if !reserved.contains t && startsWith (.mark ":=") rest then boundName hints fuel ts
      else unbound hints fuel ts
    | _ => unbound hints fuel ts

def unbound (hints : Bool) : Nat → Reader Expression
  | 0, _ => .nothing
  | fuel + 1, ts =>
    (expression hints fuel ts).andThen fun e rest =>
      match if hints then assignment fuel e ts rest else .nothing with
      | .flawed flaw => .flawed flaw
      | _ => if startsWith (.mark ":=") rest then .nothing else .found e rest

/-- Look for an assignment to the expression `e`, which stands at `ts` before `rest`. -/
def assignment (fuel : Nat) (e : Expression) (ts rest : List Located) : Outcome Unit :=
  match fuel with
  | 0 => .nothing
  | fuel + 1 =>
    let bound := if startsWith (.mark ":=") rest then
        (expression true fuel (rest.drop 1)).andThen fun _ _ => .flawed (.bound e.noun)
      else .nothing
    bound.orElse fun _ =>
      match keyword? ts with
      | some word =>
        if reserved.contains word then .nothing
        else (operation true unionLevel fuel (ts.drop 2)).andThen fun _ rest =>
          if startsWith (.mark "=") rest || startsWith (.mark ":=") rest then .nothing
          else .flawed .equals
      | none =>
        let fixed := match atom false fuel ts with
          | .found e _ => e.noun = "tuple" || constants.contains e.noun
          | _ => false
        if fixed then .nothing
        else
          (operation false unionLevel fuel ts).andThen fun target rest =>
            if startsWith (.mark "=") rest then
              (operation true unionLevel fuel (rest.drop 1)).andThen fun _ rest =>
                if startsWith (.mark "=") rest || startsWith (.mark ":=") rest then .nothing
                else .flawed (.assigned target.noun)
            else .nothing

/-- An item of a tuple or set, and whether it is unpacked. -/
def item (hints : Bool) : Nat → Reader (Bool × Expression)
  | 0, _ => .nothing
  | fuel + 1, ts =>
    (next ts).andThen fun token rest =>
      if token = .mark "*" then
        (operation hints unionLevel fuel rest).andThen fun _ rest =>
          .found (true, .evaluated "starred") rest
      else (named hints fuel ts).andThen fun e rest => .found (false, e) rest

/-- What an expression can begin with. -/
def atom (hints : Bool) : Nat → Reader Expression
  | 0, _ => .nothing
  | fuel + 1, ts =>
    (next ts).andThen fun token rest =>
      match token with
      | .name t =>
        if constants.contains t then .found ⟨t, .constant, none⟩ rest
        else if reserved.contains t then .nothing
        else .found ⟨"name", .refused .notLiteral, some t⟩ rest
      | .number imaginary => .found ⟨"literal", .number imaginary, none⟩ rest
      | .quoted quoting => quotedRun quoting rest
      | .mark m =>
        if m = "..." then .found ⟨"ellipsis", .constant, none⟩ rest
        else if m = "(" then parenthesized hints fuel rest
        else if m = "\x7b" then braced hints fuel rest
        else .nothing
      | _ => .nothing

/-- What stands between parentheses, after the first of them. -/
def parenthesized (hints : Bool) : Nat → Reader Expression
  | 0, _ => .nothing
  | fuel + 1, ts =>
    (next ts).andThen fun token rest =>
      if token = .mark ")" then .found (.tuple []) rest
      else if token = .mark "**" then
        (expression hints fuel rest).andThen fun _ rest =>
          (expect ")" rest).andThen fun _ _ => if hints then .flawed .doubleStarred else .nothing
      else
        (tuple hints fuel ts).orElse fun _ =>
          if hints && token == .mark "*" then starredAlone fuel rest else .nothing

/-- Look for what is wrong with an unpacked expression between parentheses. -/
def starredAlone (fuel : Nat) (ts : List Located) : Outcome Expression :=
  match fuel with
  | 0 => .nothing
  | fuel + 1 =>
    (operation false 0 fuel ts).andThen fun first rest =>
      match neighbour fuel first ts rest with
      | .flawed flaw => .flawed flaw
      | _ => (expect ")" rest).andThen fun _ _ => .flawed .starred

/-- A tuple or a single expression, after the opening parenthesis. -/
def tuple (hints : Bool) : Nat → Reader Expression
  | 0, _ => .nothing
  | fuel + 1, ts =>
    (item hints fuel ts).andThen fun (starred, first) rest =>
      if startsWith (.mark ",") rest then
        (itemsFrom (item hints fuel) rest.length [(starred, first)] rest).andThen
          fun items rest => (expect ")" rest).andThen fun _ rest =>
            .found (.tuple (items.map Prod.snd)) rest
      else
        (expect ")" rest).andThen fun _ rest => if starred then .nothing else .found first rest

/-- What stands between braces, after the first of them. -/
def braced (hints : Bool) : Nat → Reader Expression
  | 0, _ => .nothing
  | fuel + 1, ts =>
    (next ts).andThen fun token rest =>
      if token = .mark "\x7d" then .found (.dict []) rest
      else if token = .mark "**" then
        (member hints fuel ts).andThen fun first rest => members hints fuel first rest
      else
        (item hints fuel ts).andThen fun (starred, first) rest =>
          if !starred && first.noun != "named expression" && startsWith (.mark ":") rest then
            (memberOf hints fuel first rest).andThen fun first rest => members hints fuel first rest
          else
            (itemsFrom (item hints fuel) rest.length [(starred, first)] rest).andThen
              fun items rest => (expect "\x7d" rest).andThen fun _ rest =>
                .found (.set (items.map Prod.snd)) rest

/-- The members of a dictionary after the first. -/
def members (hints : Bool) (fuel : Nat) (first : Expression × Expression)
    (ts : List Located) : Outcome Expression :=
  match fuel with
  | 0 => .nothing
  | fuel + 1 =>
    (itemsFrom (member hints fuel) ts.length [first] ts).andThen fun members rest =>
      (expect "\x7d" rest).andThen fun _ rest => .found (.dict members) rest

/-- A key with its value, or an unpacked dictionary. -/
def member (hints : Bool) : Nat → Reader (Expression × Expression)
  | 0, _ => .nothing
  | fuel + 1, ts =>
    (next ts).andThen fun token rest =>
      if token = .mark "**" then
        (operation hints unionLevel fuel rest).andThen fun value rest =>
          .found (.evaluated "starred", value) rest
      else
        (expression hints fuel ts).andThen fun key rest =>
          if startsWith (.mark ":") rest then memberOf hints fuel key rest
          else if hints then .flawed .missingColon
          else .nothing

/-- A key with the value after the colon. -/
def memberOf (hints : Bool) (fuel : Nat) (key : Expression) (ts : List Located) :
    Outcome (Expression × Expression) :=
  match fuel with
  | 0 => .nothing
  | fuel + 1 =>
    let behind := ts.drop 1
    match expression hints fuel behind with
    | .flawed flaw => .flawed flaw
    | .found value rest => .found (key, value) rest
    | .nothing =>
      if !hints then .nothing
      else if startsWith (.mark "*") behind then
        (operation hints unionLevel fuel (behind.drop 1)).andThen fun _ _ => .flawed .starredValue
      else if startsWith (.mark "\x7d") behind || startsWith (.mark ",") behind then
        .flawed .missingValue
      else .nothing

end

/-- The most functions that call one another before a token is taken. -/
def callsPerToken : Nat := 40

/-- The whole of a text: expressions with commas between them. -/
def whole (hints : Bool) (ts : List Located) : Outcome Expression :=
  let fuel := callsPerToken * (ts.length + 1)
  (expression hints fuel ts).andThen fun first rest =>
    if startsWith (.mark ",") rest then
      (itemsFrom (expression hints fuel) rest.length [first] rest).andThen fun items rest =>
        .found (.tuple items) rest
    else .found first rest

/-- What follows the line breaks at the end of a text. -/
def afterLines (ts : List Located) : List Located :=
  ts.dropWhile (·.token == .lineEnd)

def indentedRest (ts : List Located) : Flaw :=
  if startsWith .indent (afterLines ts) then .indented else .invalid

/-- The expression in a text. -/
def read (t : Text) : Except Flaw Expression :=
  match tokens t with
  | .error flaw => .error flaw
  | .ok ts =>
    match whole false ts with
    | .flawed flaw => .error flaw
    | .found e rest =>
      match afterLines rest with
      | [] => .ok e
      | ⟨.stop flaw, _⟩ :: _ => .error flaw
      | _ => .error (hint ts (indentedRest rest))
    | .nothing => .error (hint ts .invalid)
where
  /-- The flaw that hints find, if any. -/
  hint (ts : List Located) (usual : Flaw) : Flaw :=
    match whole true ts with
    | .flawed flaw => flaw
    | _ => usual

/-- Why a text is no literal. -/
def fault? (t : Text) : Option Fault :=
  match read t with
  | .error flaw => some (.grammar flaw)
  | .ok e => e.fault?

end EventScript.Literal
