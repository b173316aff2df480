import EventScript.Proofs.Compile.AllOrNothing
import EventScript.Proofs.Compile.Outcomes
import EventScript.Proofs.Csv.Contents
import EventScript.Proofs.Source.Mark
import EventScript.Proofs.Text.Strict

/-!
# CSV files are encoded

The text of a file holds no surrogates, so neither do the cells of a CSV file, and of an accepted
table nothing else could keep the script from being encoded.
-/

namespace EventScript

namespace Source

variable {levels : Option Nat} {tree : FileTree} {path : Path} {format : SourceFormat}
  {rows : List Row}

/-- With or without a mark, what is decoded has no surrogates. -/
theorem hasSurrogate_of_decode {bytes : Bytes} {t : Text} (read : decode bytes = .ok t) :
    t.hasSurrogate = false := by
  unfold decode at read
  split at read
  · cases read
    rfl
  · split at read
    · exact (Utf8.decode_eq_ok_iff.mp read).1
    · exact (Utf8.decode_eq_ok_iff.mp read).1

/-- The rows of a CSV file are those of its text, whose line endings are left alone. -/
theorem exists_decode_of_rowsOfFile (csv : SourceFormat.ofPath path = .ok .csv)
    (read : rowsOfFile levels tree path = .ok (format, rows)) :
    ∃ bytes t, contentOf tree path = .ok bytes ∧ decode bytes = .ok t ∧ rowsOfCsv t = .ok rows := by
  unfold rowsOfFile at read
  obtain ⟨found, same, read⟩ := Except.exists_of_bind_eq_ok read
  cases csv.symm.trans same
  obtain ⟨bytes, held, read⟩ := Except.exists_of_bind_eq_ok read
  obtain ⟨t, decoded, read⟩ := Except.exists_of_bind_eq_ok read
  obtain ⟨parsed, divided, read⟩ := Except.exists_of_bind_eq_ok read
  cases read
  refine ⟨bytes, t, held, ?_, divided⟩
  rw [textOfFile] at decoded
  cases given : decode bytes with
  | error fault =>
    rw [given] at decoded
    cases decoded
  | ok u =>
    rw [given] at decoded
    cases decoded
    rfl

/-- Quotation marks and line endings may stand anywhere: a cell has only what the text has. -/
theorem mem_of_mem_textCells {t u : Text} {row : Row} {c : CodePoint}
    (read : rowsOfCsv t = .ok rows) (given : row ∈ rows) (held : u ∈ Row.textCells row)
    (inside : c ∈ u) : c ∈ t := by
  obtain ⟨fields, found, rfl⟩ := exists_read_of_rowsOfCsv read
  obtain ⟨texts, listed, rfl⟩ := List.mem_map.mp given
  obtain ⟨cell, taken, same⟩ := List.mem_filterMap.mp held
  obtain ⟨field, written, rfl⟩ := List.mem_map.mp (List.mem_of_mem_tail taken)
  cases same
  exact Csv.mem_of_read found texts listed u written c inside

theorem hasSurrogate_of_rowsOfFile (csv : SourceFormat.ofPath path = .ok .csv)
    (read : rowsOfFile levels tree path = .ok (format, rows)) :
    ∀ row ∈ rows, ∀ t ∈ Row.textCells row, t.hasSurrogate = false := by
  obtain ⟨bytes, t, -, decoded, parsed⟩ := exists_decode_of_rowsOfFile csv read
  have clean := Text.hasSurrogate_eq_false_iff.mp (hasSurrogate_of_decode decoded)
  intro row given u held
  rw [Text.hasSurrogate_eq_false_iff]
  exact fun c inside => clean c (mem_of_mem_textCells parsed given held inside)

end Source

/-- What a source file gives before anything is encoded. -/
def commandsOf (levels : Option Nat) (tree : FileTree) (source : Path) :
    Except Failure (List Command) := do
  let read ← Source.rowsOfFile levels tree source
  Row.toCommands read.2

variable {levels : Option Nat} {tree : FileTree} {source : Path} {config : Script.Config}

theorem compilationOf_of_commandsOf_error {failure : Failure}
    (failed : commandsOf levels tree source = .error failure) :
    compilationOf levels tree source config = .error failure := by
  revert failed
  unfold commandsOf compilationOf
  rcases Source.rowsOfFile levels tree source with early | ⟨format, rows⟩
  · intro failed
    cases failed
    rfl
  · intro rejected
    have late : Row.toCommands rows = .error failure := rejected
    simp only [compileRows, late]
    rfl

theorem settles_commandsOf (speakable : FileTree.unspeakable? source.toText = none)
    (csv : SourceFormat.ofPath source = .ok .csv) :
    Settles [.reading, .parsing, .validating] (fun _ => True) (commandsOf levels tree source) := by
  apply (Source.settles_rowsOfFile speakable fun _ => Source.not_nests_of_csv csv).bind_append
  intro read writable
  exact (Row.settles_toCommands writable).mono (.refl _) fun _ _ => trivial

/-- Whatever a CSV file says, it is a script once its rows are accepted. -/
theorem exists_isOf_of_csv {asked environment : Option Text} {commands : List Command}
    (csv : SourceFormat.ofPath source = .ok .csv)
    (loaded : Script.Config.load asked environment = .ok config)
    (accepted : commandsOf levels tree source = .ok commands) :
    ∃ compilation : Compilation, compilation.IsOf levels tree source config := by
  obtain ⟨⟨format, rows⟩, read, validated⟩ := Except.exists_of_bind_eq_ok accepted
  cases encoded : Script.encode commands config with
  | ok script => exact ⟨⟨rows, commands, script⟩, ⟨format, read⟩, validated, encoded⟩
  | error failure =>
    rw [Script.encode_eq_error_iff_of_toCommands loaded validated] at encoded
    obtain ⟨t, listed, found⟩ := List.exists_of_findSome?_eq_some encoded
    obtain ⟨row, given, held⟩ := List.mem_flatMap.mp listed
    have clean := Source.hasSurrogate_of_rowsOfFile csv read row given t held
    rw [Script.surrogateFailure?_eq_none_iff.mpr clean] at found
    cases found

/-- No CSV file fails in the encoder: reading, parsing or validating it is refused, or its script
is made, whatever its bytes are and wherever the script is to go. -/
theorem compileFile_of_csv {asked environment : Option Text}
    (csv : SourceFormat.ofPath source = .ok .csv) (holds : tree.HoldsFile source)
    (loaded : Script.Config.load asked environment = .ok config) (target : Path)
    (consent : Option Consent) (listened : Bool) :
    let result := (compileFile levels source target config consent listened tree).result
    (∀ fault, result ≠ .error (.refused (.encoding fault))) ∧
      ((∃ refusal : Refusal, refusal.stage ∈ [Stage.reading, .parsing, .validating] ∧
          commandsOf levels tree source = .error (.refused refusal) ∧
          result = .error (.refused refusal)) ∨
        ∃ compilation : Compilation, compilation.IsOf levels tree source config) := by
  intro result
  have settles := @settles_commandsOf levels tree source holds.1 csv
  cases accepted : commandsOf levels tree source with
  | error failure =>
    rw [accepted] at settles
    obtain ⟨refusal, rfl⟩ := settles.exists_refusal
    obtain ⟨events, -, ran⟩ :=
      compileFile_apply_error (compilationOf_of_commandsOf_error accepted) target consent listened
    have ended : result = .error (.refused refusal) := congrArg Outcome.result ran
    refine ⟨?_, .inl ⟨refusal, settles.stage_mem, rfl, ended⟩⟩
    intro fault other
    cases ended.symm.trans other
    have early := settles.stage_mem
    simp [Refusal.stage] at early
  | ok commands =>
    obtain ⟨compilation, made⟩ := exists_isOf_of_csv csv loaded accepted
    obtain ⟨before, after, -, -, ran⟩ := compileFile_apply made target consent listened
    have ended := congrArg Outcome.result ran
    have writes := Job.writes_writeScript compilation.script target consent tree
    refine ⟨?_, .inr ⟨compilation, made⟩⟩
    intro fault other
    rw [show result = _ from ended] at other
    cases wrote : (Job.writeScript compilation.script target consent tree).result with
    | ok size =>
      rw [wrote] at other
      cases other
    | error failure =>
      rw [wrote] at writes other
      cases other
      cases writes.stage_eq

/-- A row with more after the closing quotation mark than a cell should have. -/
def strayText : Text := "1,hud,,,say,\"a\"b\r\n"

def strayRow : Row :=
  [.text "1", .text "hud", .text [], .text [], .text "say", .text "ab"]

def strayTree : FileTree where
  entries := [([FileTree.encodeName "a.csv"], .file (strayText.flatMap Utf8.encodeOne))]
  workingDirectory := []

theorem compileFile_of_csv_strayTree :
    let source := Path.ofText "a.csv"
    let config : Script.Config := ⟨"0.1.0", Script.magic⟩
    SourceFormat.ofPath source = .ok .csv ∧ strayTree.HoldsFile source ∧
      Script.Config.load none none = .ok config ∧
      ∃ compilation : Compilation,
        compilation.IsOf (some Json.usualLevels) strayTree source config := by
  have csv : SourceFormat.ofPath (Path.ofText "a.csv") = .ok .csv := by rfl
  have holds : strayTree.HoldsFile (Path.ofText "a.csv") := ⟨rfl, _, rfl⟩
  have loaded : Script.Config.load none none = .ok ⟨"0.1.0", Script.magic⟩ := by rfl
  refine ⟨csv, holds, loaded, ?_⟩
  obtain ⟨-, ⟨refusal, -, rejected, -⟩ | made⟩ :=
    compileFile_of_csv csv holds loaded (Path.ofText "a.sdf") none false
  · have content : Source.contentOf strayTree (Path.ofText "a.csv") =
        .ok (strayText.flatMap Utf8.encodeOne) := by rfl
    have decoded : Source.decode (strayText.flatMap Utf8.encodeOne) = .ok strayText :=
      Source.decode_flatMap_encodeOne (by decide) (by decide)
    have parsed : Source.rowsOfText (some Json.usualLevels) .csv strayText = .ok [strayRow] := by
      rfl
    have read : Source.rowsOfFile (some Json.usualLevels) strayTree (Path.ofText "a.csv") =
        .ok (.csv, [strayRow]) := by
      unfold Source.rowsOfFile
      rw [csv, content]
      simp only [bind, Except.bind, Source.textOfFile, decoded, Except.mapError, parsed]
      rfl
    have validated : Row.toCommands [strayRow] = .ok [⟨1, "hud", [], [], "say", "ab"⟩] := by cbv
    rw [commandsOf, read] at rejected
    cases validated.symm.trans rejected
  · exact made

end EventScript
