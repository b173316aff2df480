import EventScript.Path
import EventScript.Text.Utf8

/-!
# File trees

Directories and files below a root, with a working directory for relative paths. A path is followed
one component at a time, so double dots lead to the parent of the directory reached.
-/

namespace EventScript

/-- The names on the way from the root, which is not listed itself and is always a directory. -/
abbrev Location := List Bytes

inductive Node
  | directory
  | file (content : Bytes)
  deriving DecidableEq, Repr

structure FileTree where
  entries : List (Location × Node)
  workingDirectory : Location
  deriving Repr

namespace FileTree

/-- What the system answers when it does not follow or open a path. -/
inductive Refusal
  | missing
  | isDirectory
  | notDirectory
  | nameTooLong
  deriving DecidableEq, Repr

def Refusal.message : Refusal → Text
  | .missing => "No such file or directory"
  | .isDirectory => "Is a directory"
  | .notDirectory => "Not a directory"
  | .nameTooLong => "File name too long"

def lookup (tree : FileTree) (location : Location) : Option Node :=
  if location = [] then some .directory
  else (tree.entries.find? fun entry => entry.1 = location).map (·.2)

def replaceEntry (location : Location) (node : Node) :
    List (Location × Node) → List (Location × Node)
  | [] => [(location, node)]
  | entry :: rest =>
    if entry.1 = location then (location, node) :: rest
    else entry :: replaceEntry location node rest

/-- Put `node` at a location below the root. -/
def insert (tree : FileTree) (location : Location) (node : Node) : FileTree :=
  { tree with entries := replaceEntry location node tree.entries }

theorem find?_replaceEntry (location other : Location) (node : Node)
    (entries : List (Location × Node)) :
    ((replaceEntry location node entries).find? fun entry => entry.1 = other) =
      if other = location then some (location, node)
      else entries.find? fun entry => entry.1 = other := by
  induction entries with
  | nil => by_cases h : other = location <;> simp [replaceEntry, h, eq_comm]
  | cons entry rest ih =>
    simp only [replaceEntry]
    split
    · next same =>
      by_cases h : other = location
      · simp [h]
      · simp [same, h, Ne.symm h]
    · next different =>
      simp only [List.find?_cons, ih]
      by_cases h : other = location
      · simp [h, different]
      · simp [h]

theorem lookup_insert (tree : FileTree) {location : Location} (below : location ≠ [])
    (node : Node) (other : Location) :
    (tree.insert location node).lookup other =
      if other = location then some node else tree.lookup other := by
  by_cases root : other = []
  · simp [lookup, root, Ne.symm below]
  · simp only [lookup, insert, find?_replaceEntry, if_neg root]
    split <;> rfl

def isDirectory (tree : FileTree) (location : Location) : Bool :=
  tree.lookup location == some .directory

/-- The most bytes in the name of an entry. -/
def nameLimit : Nat := 255

/-- The most bytes in a path, the null that ends it included. -/
def pathLimit : Nat := 4096

def parentName : Bytes := [46, 46]

/-- Follow names one by one, each from a directory. -/
def walk (tree : FileTree) (location : Location) : List Bytes → Except Refusal Location
  | [] => .ok location
  | name :: rest =>
    if !tree.isDirectory location then .error .notDirectory
    else if name = parentName then tree.walk location.dropLast rest
    else if nameLimit < name.length then .error .nameTooLong
    else if (tree.lookup (location ++ [name])).isNone then .error .missing
    else tree.walk (location ++ [name]) rest

/-- A code point that stands for a byte which is not text. -/
def isEscapedByte (c : CodePoint) : Bool :=
  0xDC80 ≤ c.val && c.val ≤ 0xDCFF

def encodeName (t : Text) : Bytes :=
  t.flatMap fun c => if isEscapedByte c then [UInt8.ofNat (c.val - 0xDC00)] else Utf8.encodeOne c

/-- Why a path cannot even be handed to the system. -/
inductive Unspeakable
  | surrogate (run : Unencodable)
  | null
  deriving DecidableEq, Repr

def unspeakable? (t : Text) : Option Unspeakable :=
  match t.dropWhile fun c => !c.isSurrogate || isEscapedByte c with
  | c :: rest =>
    some (.surrogate ⟨t.length - rest.length - 1, c, (rest.takeWhile (·.isSurrogate)).length + 1⟩)
  | [] => if t.hasNull then some .null else none

/-- Where following a path begins. -/
def origin (tree : FileTree) (path : Path) : Location :=
  match path.anchor with
  | .relative => tree.workingDirectory
  | .root | .doubleRoot => []

def isTooLong (path : Path) : Bool :=
  pathLimit ≤ (encodeName path.toText).length

/-- The location of an existing file or directory. -/
def locate (tree : FileTree) (path : Path) : Except Refusal Location :=
  if isTooLong path then .error .nameTooLong
  else tree.walk (tree.origin path) (path.parts.map encodeName)

/-- The location that writing a file by this path fills. -/
def locateTarget (tree : FileTree) (path : Path) : Except Refusal Location :=
  if isTooLong path then .error .nameTooLong
  else match (path.parts.map encodeName).getLast? with
    | none => .error .isDirectory
    | some name =>
      match tree.walk (tree.origin path) (path.parts.dropLast.map encodeName) with
      | .error refusal => .error refusal
      | .ok location =>
        if !tree.isDirectory location then .error .notDirectory
        else if name = parentName then .error .isDirectory
        else if nameLimit < name.length then .error .nameTooLong
        else if tree.isDirectory (location ++ [name]) then .error .isDirectory
        else .ok (location ++ [name])

/-- The bytes of a file. -/
def content (tree : FileTree) (path : Path) : Except Refusal Bytes :=
  match tree.locate path with
  | .error refusal => .error refusal
  | .ok location =>
    match tree.lookup location with
    | some (.file bytes) => .ok bytes
    | some .directory => .error .isDirectory
    | none => .error .missing

/-- Create or replace a file. -/
def store (tree : FileTree) (path : Path) (bytes : Bytes) : Except Refusal FileTree :=
  match tree.locateTarget path with
  | .error refusal => .error refusal
  | .ok location => .ok (tree.insert location (.file bytes))

/-- Names joined by slashes. -/
def spelling : Location → Bytes
  | [] => []
  | [name] => name
  | name :: next :: rest => name ++ 47 :: spelling (next :: rest)

/-- What is new or has another content than before. -/
def changes (before after : FileTree) : List (Location × Node) :=
  after.entries.filter fun entry => before.lookup entry.1 ≠ some entry.2

end FileTree

end EventScript
