import EventScript.Compile
import EventScript.Proofs.Except
import EventScript.Proofs.FileTree
import EventScript.Proofs.Job
import EventScript.Proofs.Row.Command

/-!
# The stages of a compile

Reading, validating and encoding are quiet and make one result of the source file. Only with that in
hand is the output looked at, and only the last step of writing touches a file.
-/

namespace EventScript

/-- Rows, commands and script of a source file. -/
structure Compilation where
  rows : List Row
  commands : List Command
  script : Bytes

/-- What is made of a source file, wherever it is to be written. -/
def compilationOf (levels : Option Nat) (tree : FileTree) (source : Path) (config : Script.Config) :
    Except Failure Compilation :=
  match Source.rowsOfFile levels tree source with
  | .error failure => .error failure
  | .ok (_, rows) =>
    (compileRows rows config).map fun made => ⟨rows, made.1, made.2⟩

theorem compileRows_eq_ok_iff {rows : List Row} {config : Script.Config} {commands : List Command}
    {script : Bytes} :
    compileRows rows config = .ok (commands, script) ↔
      Row.toCommands rows = .ok commands ∧ Script.encode commands config = .ok script := by
  unfold compileRows
  constructor
  · intro made
    obtain ⟨accepted, validated, made⟩ := Except.exists_of_bind_eq_ok made
    obtain ⟨bytes, encoded, made⟩ := Except.exists_of_bind_eq_ok made
    cases made
    exact ⟨validated, encoded⟩
  · rintro ⟨validated, encoded⟩
    simp only [validated, encoded, bind, Except.bind]
    rfl

/-- The results of reading, validating and encoding a source file. -/
structure Compilation.IsOf (compilation : Compilation) (levels : Option Nat) (tree : FileTree)
    (source : Path) (config : Script.Config) : Prop where
  reads : ∃ format, Source.rowsOfFile levels tree source = .ok (format, compilation.rows)
  validates : Row.toCommands compilation.rows = .ok compilation.commands
  encodes : Script.encode compilation.commands config = .ok compilation.script

theorem compilationOf_eq_ok_iff {levels : Option Nat} {tree : FileTree} {source : Path}
    {config : Script.Config} {compilation : Compilation} :
    compilationOf levels tree source config = .ok compilation ↔
      compilation.IsOf levels tree source config := by
  constructor
  · intro made
    unfold compilationOf at made
    split at made
    · cases made
    · next format rows read =>
      rcases compiled : compileRows rows config with failure | ⟨commands, script⟩
      · rw [compiled] at made
        cases made
      · rw [compiled] at made
        cases made
        obtain ⟨validated, encoded⟩ := compileRows_eq_ok_iff.mp compiled
        exact ⟨⟨format, read⟩, validated, encoded⟩
  · rintro ⟨⟨format, read⟩, validated, encoded⟩
    simp only [compilationOf, read, compileRows_eq_ok_iff.mpr ⟨validated, encoded⟩]
    rfl

theorem Compilation.IsOf.length_commands {compilation : Compilation} {levels : Option Nat}
    {tree : FileTree} {source : Path} {config : Script.Config}
    (made : compilation.IsOf levels tree source config) :
    compilation.commands.length = compilation.rows.length :=
  Row.length_of_toCommands made.validates

namespace Job

variable {α : Type} {tree : FileTree} {result : Except Failure α}

theorem Quiet.log_bind {level : Level} {origin : Origin} {message : List Text}
    {next : Unit → Job α} (rest : (next ()).Quiet tree result) :
    Quiet (log level origin message >>= next) tree result :=
  (quiet_log level origin message).bind rest

theorem Quiet.tree_bind {next : FileTree → Job α} (rest : (next tree).Quiet tree result) :
    Quiet (Job.tree >>= next) tree result :=
  ⟨rest.tree_eq, rest.result_eq, rest.isIdle⟩

theorem quiet_readRows (levels : Option Nat) (tree : FileTree) (path : Path) :
    Quiet (readRows levels path) tree ((Source.rowsOfFile levels tree path).map Prod.snd) := by
  unfold readRows
  apply Quiet.tree_bind
  rcases Source.rowsOfFile levels tree path with failure | ⟨format, rows⟩
  · exact quiet_fail failure
  · rw [ofExcept_ok_bind]
    apply Quiet.log_bind
    exact quiet_pure rows

theorem quiet_toCommands (tree : FileTree) (rows : List Row) :
    Quiet (toCommands rows) tree (Row.toCommands rows) := by
  unfold toCommands
  rcases Row.toCommands rows with (refusal | breakdown) | commands
  · cases about : refusal.row? with
    | none =>
      simp only [about]
      exact quiet_fail _
    | some row =>
      simp only [about]
      apply Quiet.log_bind
      exact quiet_fail _
  · exact quiet_fail _
  · apply Quiet.log_bind
    exact quiet_pure commands

theorem quiet_encode (tree : FileTree) (commands : List Command) (config : Script.Config) :
    Quiet (encode commands config) tree (Script.encode commands config) := by
  have rest (encoded : Except Failure Bytes) : Quiet
      (do
        let script ← ofExcept encoded
        log .debug .encoder ["Encoded ", Numeral.digits commands.length, " commands into ",
          Numeral.digits script.length, " bytes"]
        return script) tree encoded := by
    rcases encoded with failure | script
    · exact quiet_fail failure
    · rw [ofExcept_ok_bind]
      apply Quiet.log_bind
      exact quiet_pure script
  unfold encode
  cases Script.countWarning? commands with
  | none => exact rest _
  | some warning =>
    apply Quiet.log_bind
    exact rest _

/-- Validating and encoding, with what is logged on the way. -/
def makeScript (rows : List Row) (config : Script.Config) : Job (List Command × Bytes) := do
  let commands ← toCommands rows
  let script ← encode commands config
  return (commands, script)

theorem quiet_makeScript (tree : FileTree) (rows : List Row) (config : Script.Config) :
    Quiet (makeScript rows config) tree (compileRows rows config) := by
  apply (quiet_toCommands tree rows).bind_result
  intro commands
  apply (quiet_encode tree commands config).bind_result
  intro script
  exact quiet_pure (commands, script)

/-- Everything a compile does before it looks at its output. -/
def prepare (levels : Option Nat) (source output : Path) (config : Script.Config)
    (listened : Bool) : Job Compilation := do
  let report (line : List Text) : Job Unit :=
    emit (if listened then [.status (.concat line)] else [])
  report ["Parsing data file '", source.toText, "'..."]
  let rows ← readRows levels source
  report [Numeral.digits rows.length, " rows read."]
  report ["Generating script file '", output.toText, "'..."]
  let made ← makeScript rows config
  return ⟨rows, made.1, made.2⟩

theorem quiet_report (listened : Bool) (line : Text) :
    Quiet (emit (if listened then [.status line] else [])) tree (.ok ()) := by
  apply quiet_emit
  cases listened with
  | true => simp [Event.isIdle]
  | false => simp

theorem quiet_prepare (levels : Option Nat) (tree : FileTree) (source output : Path)
    (config : Script.Config) (listened : Bool) :
    Quiet (prepare levels source output config listened) tree
      (compilationOf levels tree source config) := by
  have result_eq : compilationOf levels tree source config =
      ((Source.rowsOfFile levels tree source).map Prod.snd).bind fun rows =>
        (compileRows rows config).bind fun made => .ok ⟨rows, made.1, made.2⟩ := by
    unfold compilationOf
    rcases Source.rowsOfFile levels tree source with failure | ⟨format, rows⟩
    · rfl
    · cases made : compileRows rows config <;> simp [Except.map, Except.bind, made]
  rw [result_eq]
  apply (quiet_report listened _).bind
  apply (quiet_readRows levels tree source).bind_result
  intro rows
  refine (quiet_report listened _).bind ((quiet_report listened _).bind ?_)
  apply (quiet_makeScript tree rows config).bind_result
  intro made
  exact quiet_pure _

/-- A compile prepares its script, writes it, and sums up. -/
theorem compileFile_eq (levels : Option Nat) (source output : Path) (config : Script.Config)
    (consent : Option Consent) (listened : Bool) :
    compileFile levels source output config consent listened = do
      let compilation ← prepare levels source output config listened
      let size ← writeScript compilation.script output consent
      log .info .compiler ["Compiled ", source.toText, " → ", output.toText, " (",
        Numeral.digits compilation.commands.length, " commands, ", Numeral.digits size, " bytes)"]
      return ⟨source, output, compilation.rows.length, compilation.commands.length, size⟩ := by
  simp only [compileFile, prepare, makeScript, bind_assoc, pure_bind]

end Job

end EventScript
