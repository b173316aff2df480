import EventScript.Product
import EventScript.Text.DecimalDigit
import EventScript.Text.Quoted

/-!
# Arguments

An argument is an operand or a flag. Flags may stand anywhere before a double dash, long ones may be
shortened to a beginning that no other has, and short ones may share a dash.
-/

namespace EventScript.CommandLine

inductive Flag
  | help
  | yes
  | verbose
  | version
  deriving DecidableEq, Repr

namespace Flag

def all : List Flag := [help, yes, verbose, version]

def spellings : Flag → List Text
  | help => ["-h", "--help"]
  | yes => ["-y", "--yes"]
  | verbose => ["-v", "--verbose"]
  | version => ["--version"]

/-- Every spelling with its flag. -/
def allSpellings : List (Text × Flag) :=
  all.flatMap fun flag => flag.spellings.map fun spelling => (spelling, flag)

def ofSpelling? (t : Text) : Option Flag :=
  allSpellings.lookup t

end Flag

/-- A flag as it was given, with the text attached to it. -/
structure Use where
  flag : Flag
  spelling : Text
  attached : Option Text
  deriving DecidableEq, Repr

/-- How an argument is understood. -/
inductive Reading
  | operand (t : Text)
  | separator
  | flag (use : Use)
  | unknown (t : Text)
  deriving DecidableEq, Repr

inductive Misuse
  | ambiguous (argument : Text) (spellings : List Text)
  | attached (flag : Flag) (t : Text)
  | missingSource
  | unrecognized (arguments : List Text)
  deriving DecidableEq, Repr

def Misuse.message : Misuse → Text
  | .ambiguous argument spellings =>
    .concat ["ambiguous option: ", argument, " could match ", .joinWith ", " spellings]
  | .attached flag t =>
    .concat ["argument ", .joinWith "/" flag.spellings, ": ignored explicit argument ", t.quoted]
  | .missingSource => "the following arguments are required: in_file"
  | .unrecognized arguments =>
    .concat ["unrecognized arguments: ", .joinWith " " arguments]

/-- Divide at the first equals sign. -/
def splitAssignment (t : Text) : Text × Option Text :=
  match t.dropWhile fun (c : CodePoint) => c ≠ '=' with
  | [] => (t, none)
  | _ :: attached => (t.takeWhile fun (c : CodePoint) => c ≠ '=', some attached)

/-- The flags that an argument may stand for without spelling one in full: the long ones that begin
with it, or the short one that it begins with. -/
def abbreviated (t : Text) : List Use :=
  match t with
  | dash :: second :: rest =>
    if second = '-' then
      let (start, attached) := splitAssignment t
      (Flag.allSpellings.filter fun (spelling, _) => start.isPrefixOf spelling).map
        fun (spelling, flag) => ⟨flag, spelling, attached⟩
    else
      (Flag.allSpellings.filter fun (spelling, _) => spelling = [dash, second]).map
        fun (spelling, flag) => ⟨flag, spelling, some rest⟩
  | _ => []

def isDecimal (c : CodePoint) : Bool :=
  c.decimalValue?.isSome

/-- Digits, or a point with digits after it and perhaps before it. -/
def isUnsigned (t : Text) : Bool :=
  match t.dropWhile isDecimal with
  | [] => t ≠ []
  | c :: places => c = '.' && places ≠ [] && places.all isDecimal

/-- A negative number, which is no flag. A line feed after it does not count. -/
def isNegative (t : Text) : Bool :=
  match t with
  | dash :: rest =>
    dash = '-' && (isUnsigned rest || (rest.getLast? = some (CodePoint.ofChar '\n') &&
      isUnsigned rest.dropLast))
  | [] => false

/-- How an argument before a double dash is understood. Flags that share a dash are told apart as by
the parser before its release 3.11.9: all text after a short flag is attached to it, an equals sign
included. -/
def read (t : Text) : Except Misuse Reading :=
  if t.head? ≠ some (CodePoint.ofChar '-') then .ok (.operand t)
  else match Flag.ofSpelling? t with
    | some flag => .ok (.flag ⟨flag, t, none⟩)
    | none =>
      if t.length = 1 then .ok (.operand t)
      else
        let (start, attached) := splitAssignment t
        match Flag.ofSpelling? start, attached with
        | some flag, some attached => .ok (.flag ⟨flag, start, some attached⟩)
        | _, _ =>
          match abbreviated t with
          | [use] => .ok (.flag use)
          | _ :: _ :: _ => .error (.ambiguous t ((abbreviated t).map (·.spelling)))
          | [] =>
            if isNegative t || t.contains (CodePoint.ofChar ' ') then .ok (.operand t)
            else .ok (.unknown t)

/-- After the first double dash everything is an operand. -/
def readAll : List Text → Except Misuse (List Reading)
  | [] => .ok []
  | t :: rest =>
    if t = "--" then .ok (.separator :: rest.map .operand)
    else do return (← read t) :: (← readAll rest)

/-- The flags that share a dash. Text may only be attached to a short flag, and is more of them. The
first letter that is no flag is a misuse, as before release 3.11.9, and not an unknown argument. -/
def cluster (flag : Flag) (spelling : Text) : Option Text → Except Misuse (List Flag)
  | none => .ok [flag]
  | some [] => .error (.attached flag [])
  | some (c :: rest) =>
    if spelling[1]? = some (CodePoint.ofChar '-') then .error (.attached flag (c :: rest))
    else
      let short := [CodePoint.ofChar '-', c]
      match Flag.ofSpelling? short with
      | none => .error (.attached flag (c :: rest))
      | some next =>
        match rest with
        | [] => .ok [flag, next]
        | d :: more => do return flag :: (← cluster next short (some (d :: more)))

/-- What to compile and how. -/
structure Request where
  source : Text
  output : Option Text
  overwrite : Bool
  verbose : Bool
  deriving DecidableEq, Repr

inductive Order
  | compile (request : Request)
  | help
  | version
  deriving DecidableEq, Repr

/-- What is known of a request while arguments are left. -/
structure Draft where
  operands : Option (Text × Option Text) := none
  overwrite : Bool := false
  verbose : Bool := false
  unrecognized : List Text := []

/-- Take up flags in order. Help and the version are given at once, whatever follows. -/
def Draft.apply (draft : Draft) : List Flag → Draft ⊕ Order
  | [] => .inl draft
  | .help :: _ => .inr .help
  | .version :: _ => .inr .version
  | .yes :: rest => Draft.apply { draft with overwrite := true } rest
  | .verbose :: rest => Draft.apply { draft with verbose := true } rest

def Draft.reject (draft : Draft) (t : Text) : Draft :=
  { draft with unrecognized := draft.unrecognized ++ [t] }

def Draft.finish (draft : Draft) : Except Misuse Order :=
  match draft.operands with
  | none => .error .missingSource
  | some (source, output) =>
    if draft.unrecognized = [] then
      .ok (.compile ⟨source, output, draft.overwrite, draft.verbose⟩)
    else .error (.unrecognized draft.unrecognized)

/-- A double dash is dropped where operands are taken. -/
def dropSeparator : List Reading → List Reading
  | .separator :: rest => rest
  | readings => readings

theorem length_dropSeparator_le (readings : List Reading) :
    (dropSeparator readings).length ≤ readings.length := by
  unfold dropSeparator
  split <;> simp

/-- The output is the operand next to the source. A double dash as an operand is none. -/
def takeOutput : List Reading → Option Text × List Reading
  | .operand t :: rest => (if t = "--" then none else some t, dropSeparator rest)
  | readings => (none, readings)

theorem length_takeOutput_le (readings : List Reading) :
    (takeOutput readings).2.length ≤ readings.length := by
  unfold takeOutput
  split
  · next rest =>
    have := length_dropSeparator_le rest
    simp
    omega
  · exact Nat.le_refl _

/-- Source and output, where the readings begin with operands. -/
def takeOperands? (readings : List Reading) : Option ((Text × Option Text) × List Reading) :=
  match dropSeparator readings with
  | .operand source :: rest =>
    let next := takeOutput (dropSeparator rest)
    some ((source, next.1), next.2)
  | _ => none

theorem length_lt_of_takeOperands? {readings rest : List Reading} {operands : Text × Option Text}
    (h : takeOperands? readings = some (operands, rest)) : rest.length < readings.length := by
  unfold takeOperands? at h
  split at h
  · next source after eq =>
    obtain ⟨-, rfl⟩ := Prod.mk.inj (Option.some.inj h)
    have first := length_dropSeparator_le readings
    have second := length_dropSeparator_le after
    have third := length_takeOutput_le (dropSeparator after)
    rw [eq] at first
    simp only [List.length_cons] at first
    omega
  · contradiction

/-- Operands are taken once, at the first place where there is one. -/
def follow (draft : Draft) (readings : List Reading) : Except Misuse Order :=
  match _taken : if draft.operands.isNone then takeOperands? readings else none with
  | some (operands, rest) => follow { draft with operands := some operands } rest
  | none =>
    match readings with
    | [] => draft.finish
    | .operand t :: rest | .unknown t :: rest => follow (draft.reject t) rest
    | .separator :: rest => follow (draft.reject "--") rest
    | .flag use :: rest => do
      match draft.apply (← cluster use.flag use.spelling use.attached) with
      | .inl draft => follow draft rest
      | .inr order => return order
  termination_by readings.length
  decreasing_by
    · split at _taken
      · exact length_lt_of_takeOperands? _taken
      · contradiction
    all_goals simp

/-- What the arguments ask for. -/
def parse (arguments : List Text) : Except Misuse Order := do
  follow {} (← readAll arguments)

def usage : Text :=
  .concat ["usage: ", Product.command, " [-h] [-y] [-v] [--version] in_file [out_file]\n"]

def help : Text :=
  .concat [usage, "
Compile a CSV or JSON event table into a WTEngine binary script file (.sdf).

positional arguments:
  in_file        Path to the .csv or .json source file.
  out_file       Output script path (default: input name with the .sdf
                 extension).

options:
  -h, --help     show this help message and exit
  -y, --yes      Overwrite an existing output file without asking.
  -v, --verbose  Enable debug logging.
  --version      show program's version number and exit
"]

def versionLine : Text :=
  .concat [Product.command, " ", Product.version, "\n"]

/-- What is shown when the arguments ask for nothing. -/
def complaint (misuse : Misuse) : Text :=
  .concat [usage, Product.command, ": error: ", misuse.message, "\n"]

end EventScript.CommandLine
