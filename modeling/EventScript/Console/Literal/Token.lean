import EventScript.Number.Numeral

/-!
# Tokens of a literal

The text is cut into names, numbers, quoted texts and marks. Line breaks count only outside of
brackets. A flaw of a token refuses the whole text, wherever it stands; where the text merely stops
too early, a last token says so to the reader that gets there.
-/

namespace EventScript.Literal

/-- Why a text is no expression. -/
inductive Flaw
  | invalid
  | missingComma
  | missingElse
  | missingColon
  | missingValue
  | starredValue
  | starred
  | doubleStarred
  | equals
  | assigned (noun : Text)
  | bound (noun : Text)
  | keyword (word : Text)
  | argument
  | uncalled (name : Text)
  | mixedTexts
  | tooLong (digits : Nat)
  | indented
  | unclosed (opening : CodePoint)
  | unmatched (closing : CodePoint)
  | mismatched (closing opening : CodePoint) (line : Option Nat)
  | tooDeep
  | unterminated (line : Nat)
  | unterminatedBlock (line : Nat)
  | number (base : Text)
  | digit (d : CodePoint) (base : Text)
  | leadingZeros
  | continued
  | ended
  | unprintable (c : CodePoint)
  deriving DecidableEq, Repr

def Flaw.message : Flaw → Text
  | invalid => "invalid syntax"
  | missingComma => "invalid syntax. Perhaps you forgot a comma?"
  | missingElse => "expected 'else' after 'if' expression"
  | missingColon => "':' expected after dictionary key"
  | missingValue => "expression expected after dictionary key and ':'"
  | starredValue => "cannot use a starred expression in a dictionary value"
  | starred => "cannot use starred expression here"
  | doubleStarred => "cannot use double starred expression here"
  | equals => "invalid syntax. Maybe you meant '==' or ':=' instead of '='?"
  | assigned noun =>
    .concat ["cannot assign to ", noun, " here. Maybe you meant '==' instead of '='?"]
  | bound noun => .concat ["cannot use assignment expressions with ", noun]
  | keyword word => .concat ["cannot assign to ", word]
  | argument => "expression cannot contain assignment, perhaps you meant \"==\"?"
  | uncalled name =>
    .concat ["Missing parentheses in call to '", name, "'. Did you mean ", name, "(...)?"]
  | mixedTexts => "cannot mix bytes and nonbytes literals"
  | tooLong digits =>
    .concat [(Numeral.Fault.unreadable digits).message,
      " - Consider hexadecimal for huge integer literals to avoid decimal conversion limits."]
  | indented => "unexpected indent"
  | unclosed opening => .concat ["'", [opening], "' was never closed"]
  | unmatched closing => .concat ["unmatched '", [closing], "'"]
  | mismatched closing opening line =>
    .concat ["closing parenthesis '", [closing], "' does not match opening parenthesis '",
      [opening], "'", line.elim [] fun line => " on line " ++ Numeral.digits line]
  | tooDeep => "too many nested parentheses"
  | unterminated line =>
    .concat ["unterminated string literal (detected at line ", Numeral.digits line, ")"]
  | unterminatedBlock line =>
    .concat ["unterminated triple-quoted string literal (detected at line ", Numeral.digits line,
      ")"]
  | number base => .concat ["invalid ", base, " literal"]
  | digit d base => .concat ["invalid digit '", [d], "' in ", base, " literal"]
  | leadingZeros =>
    .concat ["leading zeros in decimal integer literals are not permitted; ",
      "use an 0o prefix for octal integers"]
  | continued => "unexpected character after line continuation character"
  | ended => "unexpected EOF while parsing"
  | unprintable c => "invalid non-printable character U+" ++ (Text.hex 4 c.val).map fun d =>
      if 97 ≤ d.val then .ofNat (d.val - 32) else d

/-- What a quoted text is by the letters before it. -/
inductive Quoting
  | characters
  | bytes
  | formatted
  deriving DecidableEq, Repr

inductive Token
  | name (t : Text)
  | number (imaginary : Bool)
  | quoted (quoting : Quoting)
  | mark (t : Text)
  | lineEnd
  | indent
  | stop (flaw : Flaw)
  deriving DecidableEq, Repr

/-- A token, and how many brackets are open behind it. -/
structure Located where
  token : Token
  depth : Nat

def isNamePart (c : CodePoint) : Bool :=
  c = '_' || c.digitValue?.isSome || 128 ≤ c.val

def isQuote (c : CodePoint) : Bool :=
  c = '\'' || c = '"'

/-! ## Numbers -/

/-- A number may be followed by a word between operands, which its letters cannot belong to. -/
def wordFollows (t : Text) : Bool :=
  shortWords.any (·.isPrefixOf t) || longWords.contains (t.takeWhile isNamePart)
where
  shortWords : List Text := ["if", "in", "is"]
  longWords : List Text := ["and", "else", "for", "or", "not"]

/-- What follows a number must not look like more of it. -/
def endNumber (base rest : Text) : Except Flaw Text :=
  if rest.head?.any isNamePart ∧ !wordFollows rest then .error (.number base) else .ok rest

/-- What follows a run of digits in which single underscores stand between digits. -/
def afterDigits (isDigit : CodePoint → Bool) (t : Text) : Except Unit Text :=
  match t with
  | [] => .error ()
  | c :: rest =>
    if isDigit c then go rest else .error ()
where
  go : Text → Except Unit Text
    | [] => .ok []
    | [c] => if c = '_' then .error () else if isDigit c then .ok [] else .ok [c]
    | c :: d :: rest =>
      if isDigit c then go (d :: rest)
      else if c = '_' then if isDigit d then go (d :: rest) else .error ()
      else .ok (c :: d :: rest)

def afterDecimals (t : Text) : Except Flaw Text :=
  (afterDigits (·.isDigit) t).mapError fun _ => .number "decimal"

/-- The digits of a base other than ten, which may begin with an underscore. -/
def afterBased (base : Text) (radix : Nat) (t : Text) : Except Flaw Text :=
  let t := if t.head? = some (CodePoint.ofChar '_') then t.drop 1 else t
  let isDigit (c : CodePoint) := c.digitValue?.any (· < radix)
  let wrong (rest : Text) (other : Except Flaw Text) : Except Flaw Text :=
    match rest.head? with
    | some c => if c.isDigit ∧ radix < 10 then .error (.digit c base) else other
    | none => other
  match afterDigits isDigit t with
  | .ok rest => wrong rest (endNumber base rest)
  | .error _ =>
    let run := t.dropWhile fun c => isDigit c || c = '_'
    let cut := (t.take (t.length - run.length)).reverse.head? = some (CodePoint.ofChar '_')
    wrong (if cut ∨ run.length = t.length then run else []) (.error (.number base))

/-- What follows the exponent and the unit of a number, and whether it is imaginary. -/
def afterExponent (t : Text) : Except Flaw (Bool × Text) :=
  match t with
  | e :: rest =>
    if e = 'e' ∨ e = 'E' then
      match rest with
      | c :: digits =>
        if c = '+' ∨ c = '-' then (afterDecimals digits).bind unit
        else if c.isDigit then (afterDecimals rest).bind unit
        else (endNumber "decimal" t).map (false, ·)
      | [] => (endNumber "decimal" t).map (false, ·)
    else unit t
  | [] => .ok (false, [])
where
  unit (t : Text) : Except Flaw (Bool × Text) :=
    match t with
    | c :: rest =>
      if c = 'j' ∨ c = 'J' then (endNumber "imaginary" rest).map (true, ·)
      else (endNumber "decimal" t).map (false, ·)
    | [] => .ok (false, [])

/-- What follows the fraction, if there is one. -/
def afterFraction (t : Text) : Except Flaw (Bool × Text) :=
  if t.head?.any (·.isDigit) then (afterDecimals t).bind afterExponent else afterExponent t

/-- The number that a text begins with: whether it is imaginary, and what follows. -/
def scanNumber (t : Text) : Except Flaw (Bool × Text) :=
  let real (rest : Except Flaw Text) := rest.map (false, ·)
  match t with
  | z :: x :: rest =>
    if z = '0' ∧ (x = 'x' ∨ x = 'X') then real (afterBased "hexadecimal" 16 rest)
    else if z = '0' ∧ (x = 'o' ∨ x = 'O') then real (afterBased "octal" 8 rest)
    else if z = '0' ∧ (x = 'b' ∨ x = 'B') then real (afterBased "binary" 2 rest)
    else decimal
  | _ => decimal
where
  decimal : Except Flaw (Bool × Text) := do
    let rest ← afterDecimals t
    let digits := (t.take (t.length - rest.length)).filter (·.isDigit)
    match rest.head? with
    | some c =>
      if c = '.' then afterFraction (rest.drop 1)
      else if c = 'e' ∨ c = 'E' ∨ c = 'j' ∨ c = 'J' then afterExponent rest
      else whole digits rest
    | none => whole digits rest
  whole (digits rest : Text) : Except Flaw (Bool × Text) :=
    if digits.head? = some (CodePoint.ofChar '0') ∧
        digits.any fun (d : CodePoint) => d ≠ '0' then .error .leadingZeros
    else if Numeral.conversionLimit < digits.length then
      (endNumber "decimal" rest).bind fun _ => .error (.tooLong digits.length)
    else (endNumber "decimal" rest).map (false, ·)

/-! ## Quoted texts -/

/-- What follows a quoted text after its opening quote; a backslash guards the next code point. -/
def afterQuote? (quote : CodePoint) : Text → Option Text
  | [] => none
  | [c] => if c = quote then some [] else none
  | c :: d :: rest =>
    if c = quote then some (d :: rest)
    else if c = '\n' then none
    else if c = '\\' then afterQuote? quote rest
    else afterQuote? quote (d :: rest)

/-- The same for a text between three quotes, which may break lines. -/
def afterBlock? (quote : CodePoint) : Text → Option Text
  | c :: d :: e :: rest =>
    if c = quote ∧ d = quote ∧ e = quote then some rest
    else if c = '\\' then afterBlock? quote (e :: rest)
    else afterBlock? quote (d :: e :: rest)
  | _ => none

def feeds (t : Text) : Nat :=
  t.count (CodePoint.ofChar '\n')

/-- The line on which a quoted text without an end is given up. A guarded feed goes on. -/
def lastLine : Nat → Text → Nat
  | line, c :: d :: rest =>
    if c = '\\' then lastLine (if d = '\n' then line + 1 else line) rest
    else if c = '\n' then line
    else lastLine line (d :: rest)
  | line, _ => line

/-- What follows the quoted text that a text begins with. -/
def scanQuoted (line : Nat) (quote : CodePoint) (t : Text) : Except Flaw Text :=
  if [quote, quote, quote].isPrefixOf t then
    match afterBlock? quote (t.drop 3) with
    | some rest => .ok rest
    | none => .error (.unterminatedBlock (line + feeds t))
  else match afterQuote? quote (t.drop 1) with
    | some rest => .ok rest
    | none => .error (.unterminated (lastLine line (t.drop 1)))

/-- The letters that may stand before a quote. -/
def quotings : List (Text × Quoting) := [
  ([], .characters), ("u", .characters), ("r", .characters), ("b", .bytes), ("br", .bytes),
  ("rb", .bytes), ("f", .formatted), ("fr", .formatted), ("rf", .formatted)]

def small (c : CodePoint) : CodePoint :=
  if 65 ≤ c.val ∧ c.val ≤ 90 then .ofNat (c.val + 32) else c

/-- Letters and a quote at the beginning. -/
def leadingQuote? (t : Text) : Option (Quoting × CodePoint × Text) :=
  let letters := t.takeWhile isNamePart
  let behind := t.dropWhile isNamePart
  match quotings.lookup (letters.map small), behind.head? with
  | some quoting, some c => if isQuote c then some (quoting, c, behind) else none
  | _, _ => none

/-! ## All tokens -/

def longMarks : List Text :=
  ["**=", "//=", ">>=", "<<=", "...", "!=", "**", "//", "==", "<=", ">=", "<<", ">>", "<>", "->",
    ":=", "+=", "-=", "*=", "/=", "%=", "&=", "|=", "^=", "@="]

/-- The token at the head of a text, if the text begins with none of the brackets, and what follows.
-/
def scan (line : Nat) (c : CodePoint) (rest : Text) : Except Flaw (Token × Text) :=
  let t := c :: rest
  match leadingQuote? t with
  | some (quoting, quote, behind) =>
    (scanQuoted line quote behind).map (.quoted quoting, ·)
  | none =>
    if c.isDigit then (scanNumber t).map fun (imaginary, rest) => (.number imaginary, rest)
    else if c = '.' ∧ rest.head?.any (·.isDigit) then
      (afterFraction rest).map fun (imaginary, rest) => (.number imaginary, rest)
    else if isNamePart c then .ok (.name (t.takeWhile isNamePart), t.dropWhile isNamePart)
    else match longMarks.find? (·.isPrefixOf t) with
      | some m => .ok (.mark m, t.drop m.length)
      | none => if c.val < 32 ∨ c.val = 127 then .error (.unprintable c) else .ok (.mark [c], rest)

/-- The most brackets that may be open. -/
def depthLimit : Nat := 200

/-- The bracket that an opening bracket asks for. -/
def closing? (c : CodePoint) : Option CodePoint :=
  if c = '(' then some ')'
  else if c = '[' then some ']'
  else if c = '\x7b' then some '\x7d'
  else none

def isClosing (c : CodePoint) : Bool :=
  c = ')' || c = ']' || c = '\x7d'

/-- Open brackets with their lines, the innermost first. -/
abbrev Brackets := List (CodePoint × Nat)

def close (brackets : Brackets) (line : Nat) (c : CodePoint) : Except Flaw Brackets :=
  match brackets with
  | [] => .error (.unmatched c)
  | (opening, opened) :: outer =>
    if closing? opening = some c then .ok outer
    else .error (.mismatched c opening (if opened = line then none else some opened))

/-- The end of a text is a flaw inside brackets. -/
def stopAt (brackets : Brackets) (flaw : Flaw) : Token :=
  .stop ((brackets.head?.map fun (opening, _) => Flaw.unclosed opening).getD flaw)

def isGap (c : CodePoint) : Bool :=
  c = ' ' || c = '\t' || c = '\x0c'

/-- The token that a new line begins with by its indentation, outside of brackets. -/
def indentation (rest : Text) : List Token :=
  if rest.head?.any isGap ∧ (rest.dropWhile isGap).head?.any fun (c : CodePoint) =>
    c ≠ '\n' && c ≠ '#' then [.indent] else []

/-- Each step leaves less of the text, and `fuel` is at least its length. -/
def tokensFrom (fuel line : Nat) (brackets : Brackets) (t : Text) : Except Flaw (List Located) :=
  match fuel, t with
  | 0, _ | _, [] => .ok (if brackets = [] then [] else [⟨stopAt brackets .ended, brackets.length⟩])
  | fuel + 1, c :: rest =>
    if isGap c then tokensFrom fuel line brackets rest
    else if c = '#' then
      tokensFrom fuel line brackets (rest.dropWhile fun (c : CodePoint) => c ≠ '\n')
    else if c = '\n' then
      let tokens := if brackets = [] then .lineEnd :: indentation rest else []
      (tokensFrom fuel (line + 1) brackets rest).map (tokens.map (⟨·, 0⟩) ++ ·)
    else if c = '\\' then
      match rest with
      | [] => .ok [⟨.stop .continued, brackets.length⟩]
      | d :: rest =>
        if d = '\n' ∧ rest ≠ [] then tokensFrom fuel (line + 1) brackets rest
        else .ok [⟨if d = '\n' then stopAt brackets .ended else .stop .continued, brackets.length⟩]
    else if (closing? c).isSome then
      if depthLimit ≤ brackets.length then .error .tooDeep
      else (tokensFrom fuel line ((c, line) :: brackets) rest).map
        (⟨.mark [c], brackets.length + 1⟩ :: ·)
    else if isClosing c then do
      let brackets ← close brackets line c
      (tokensFrom fuel line brackets rest).map (⟨.mark [c], brackets.length⟩ :: ·)
    else do
      let (token, behind) ← scan line c rest
      let used := (c :: rest).take (rest.length + 1 - behind.length)
      (tokensFrom fuel (line + feeds used) brackets behind).map (⟨token, brackets.length⟩ :: ·)

/-- Carriage returns, alone or before a feed, are feeds. -/
def withFeeds : Text → Text
  | [] => []
  | [c] => [if c = '\r' then '\n' else c]
  | c :: d :: rest =>
    if c = '\r' then if d = '\n' then d :: withFeeds rest else '\n' :: withFeeds (d :: rest)
    else c :: withFeeds (d :: rest)

def tokens (t : Text) : Except Flaw (List Located) :=
  tokensFrom (t.length + 1) 1 [] (withFeeds t)

end EventScript.Literal
