import EventScript.CommandLine.Run
import EventScript.Console.Standard

/-!
The program itself: it takes from the system what a run is given, and passes on what a run leaves.
-/

namespace EventScript.Program

/-- A text as the system takes it. What has no bytes is named by its number. -/
def write (t : Text) : String :=
  String.ofList ((t.flatMap fun c => if c.isSurrogate then c.escape else [c]).map fun c =>
    Char.ofNat c.val)

/-- The name of a location, if it is text. -/
def nameOf (location : Location) : Option String :=
  String.fromUTF8? ⟨(47 :: FileTree.spelling location).toArray⟩

/-- What stands at a location in the files of the system. -/
def look (location : Location) : IO (Option Node) := do
  match nameOf location with
  | none => return none
  | some name =>
    let file := (← IO.currentDir) / name
    if ← file.isDir then return some .directory
    else if ← file.pathExists then return some (.file (← IO.FS.readBinFile file).data.toList)
    else return none

/-- The tree with what stands on the way from `location` along `names`. -/
def follow (tree : FileTree) (location : Location) : List Bytes → IO FileTree
  | [] => return tree
  | name :: rest => do
    let next := if name = FileTree.parentName then location.dropLast else location ++ [name]
    match ← look next with
    | none => return tree
    | some node => follow (if next = [] then tree else tree.insert next node) next rest

/-- As much of the files of the system as paths lead through. -/
def survey (paths : List Path) : IO FileTree := do
  let here := Path.ofText (Text.ofString (← IO.currentDir).toString)
  let names := here.parts.map FileTree.encodeName
  let tree ← follow ⟨[], names⟩ [] names
  paths.foldlM (fun tree path =>
    follow tree (tree.origin path) (path.parts.map FileTree.encodeName)) tree

def save (change : Location × Node) : IO Unit := do
  match change.2, nameOf change.1 with
  | .file bytes, some name => IO.FS.writeBinFile name ⟨bytes.toArray⟩
  | _, _ => return ()

def readTyped : IO CommandLine.Typed := do
  match ← (← IO.getStdin).getLine with
  | "" => return .finished
  | line => return .line (Text.ofString line)

/-- Run, and run again with one line more, until what was typed is enough. `shown` code points have
been shown already; the rest is what is left to show. -/
partial def converse (invocation : CommandLine.Invocation) (tree : FileTree) (shown : Nat) :
    IO (CommandLine.Transcript × Text) := do
  let transcript := CommandLine.run invocation tree
  match transcript.pending with
  | none => return (transcript, transcript.errorOutput.drop shown)
  | some text =>
    IO.eprint (write (text.drop shown))
    converse { invocation with typed := invocation.typed ++ [← readTyped] } tree text.length

end EventScript.Program

open EventScript in
def main (arguments : List String) : IO UInt32 := do
  let arguments := arguments.map Text.ofString
  let stampVariable := (← IO.getEnv (Program.write Script.stampVariable)).map Text.ofString
  let projectLink := Text.ofString ((← IO.getEnv (Program.write Product.linkVariable)).getD "")
  let time := Numeral.digits (← IO.monoMsNow)
  let tree ← Program.survey (CommandLine.concerns arguments)
  let invocation : CommandLine.Invocation :=
    { arguments, stampVariable, projectLink, console := .standard, time }
  let (transcript, rest) ← Program.converse invocation tree 0
  (tree.changes transcript.tree).forM Program.save
  IO.print (Program.write transcript.output)
  IO.eprint (Program.write rest)
  match transcript.ending with
  | .exit status => return UInt32.ofNat status
  | .escaped failure =>
    IO.eprintln (Program.write failure.message)
    return 1
