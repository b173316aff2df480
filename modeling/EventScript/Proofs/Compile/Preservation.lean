import EventScript.Proofs.Compile.AllOrNothing
import EventScript.Proofs.Csv.Points
import EventScript.Proofs.Script.RoundTrip
import EventScript.Proofs.Source.Mark
import EventScript.Proofs.Source.Rows

/-!
# From a written table to its script

However a table that can be compiled is written, the script of its file is read back as its rows:
decoding, splitting, validating and encoding lose nothing, and nothing stands against writing.
-/

namespace EventScript

variable {table : Csv.WrittenTable}

theorem Source.decode_written (compilable : ∀ cells ∈ table.rows, Row.IsCompilable cells)
    (marked : Bool) : decode (fileOf marked table.written) = .ok table.written := by
  apply decode_fileOf
  · rw [Text.hasSurrogate_eq_false_iff]
    apply Csv.WrittenTable.forall_written
    · intro c layout
      have small := Csv.val_lt_of_isLayout layout
      simp only [CodePoint.isSurrogate, Bool.and_eq_false_iff, decide_eq_false_iff_not]
      omega
    · intro cells listed
      exact (compilable cells listed).isSurrogate_eq
  · intro start
    have small : markPoint.val ≤ 0x3000 := by
      apply Csv.WrittenTable.forall_head?_written (p := fun c => c.val ≤ 0x3000) _ _ _ start
      · intro c layout
        exact Nat.le_trans (Nat.le_of_lt (Csv.val_lt_of_isLayout layout)) (by decide)
      · intro cells listed
        exact (compilable cells listed).val_le_of_head?
    exact absurd small (by decide)

/-- The file is a way of writing a table that can be compiled. -/
structure Source.Holds (tree : FileTree) (source : Path) (table : Csv.WrittenTable) : Prop where
  valid : table.isValid = true
  nonempty : table.rows ≠ []
  compilable : ∀ cells ∈ table.rows, Row.IsCompilable cells
  fits : ∀ cells ∈ table.rows, ∀ t ∈ cells, t.length ≤ Csv.fieldLimit
  format : SourceFormat.ofPath source = .ok .csv
  content : ∃ marked, contentOf tree source = .ok (fileOf marked table.written)

variable {levels : Option Nat} {tree : FileTree} {source target : Path} {directory : Location}
  {asked environment : Option Text} {config : Script.Config}

theorem Source.Holds.rowsOfFile_eq (holds : Source.Holds tree source table) :
    rowsOfFile levels tree source = .ok (.csv, cellRows table.rows) := by
  obtain ⟨marked, content⟩ := holds.content
  have text : textOfFile .csv (fileOf marked table.written) = .ok table.written :=
    decode_written holds.compilable marked
  have rows : rowsOfText levels .csv table.written = _ := rowsOfCsv_written holds.valid holds.fits
  simp only [rowsOfFile, holds.format, content, bind, Except.bind, text, Except.mapError, rows]
  rfl

/-- Reading, validating and encoding turn the table into a script of its records. -/
theorem Source.Holds.exists_isOf (levels : Option Nat) (holds : Source.Holds tree source table)
    (loaded : Script.Config.load asked environment = .ok config) :
    ∃ (compilation : Compilation) (parts : Script.Parts),
      compilation.IsOf levels tree source config ∧
      compilation.rows.length = table.rows.length ∧
      Script.decodeStamped? config.stamp compilation.script = some parts ∧
      List.Forall₂ Row.Spells table.rows parts.commands := by
  have wellFormed := Script.Config.wellFormed_of_load loaded
  obtain ⟨commands, spells⟩ := Row.exists_forall₂_spells holds.compilable
  obtain ⟨script, stamp, encoded, -, decoded⟩ :=
    Script.exists_encode_eq_ok wellFormed (Row.isStorable_of_spells spells)
  refine ⟨⟨_, commands, script⟩, _, ⟨⟨_, holds.rowsOfFile_eq⟩, ?_, encoded⟩, ?_, decoded, spells⟩
  · exact Row.toCommands_of_spells holds.nonempty spells
  · exact List.length_map ..

/-- A table that can be compiled is compiled: the output holds one record per row, in their order,
with the number that its first cell spells and with its other cells as they are. -/
theorem compileFile_written (holds : Source.Holds tree source table)
    (loaded : Script.Config.load asked environment = .ok config)
    (speakable : FileTree.unspeakable? target.toText = none)
    (missing : tree.locate target = .error .missing)
    (parent : tree.locate target.parent = .ok directory)
    (consent : Option Consent) (listened : Bool) :
    let outcome := compileFile levels source target config consent listened tree
    ∃ script parts,
      outcome.result =
        .ok ⟨source, target, table.rows.length, table.rows.length, script.length⟩ ∧
      outcome.tree.content target = .ok script ∧
      Script.decodeStamped? config.stamp script = some parts ∧
      List.Forall₂ Row.Spells table.rows parts.commands := by
  obtain ⟨compilation, parts, made, length_eq, decoded, spells⟩ := holds.exists_isOf levels loaded
  obtain ⟨before, after, -, -, ran⟩ := compileFile_apply made target consent listened
  obtain ⟨stored, result⟩ :=
    Job.writeScript_of_missing speakable missing parent compilation.script consent
  rw [ran]
  refine ⟨compilation.script, parts, ?_, stored.content_eq, decoded, spells⟩
  simp only [result, length_eq]
  rfl

/-- Two rows between empty lines, the first with a comma, a line feed and quotation marks in a cell,
the second all but blank. -/
def sampleTable : Csv.WrittenTable where
  lines := [.empty .both,
    .row [⟨"0x1F", false⟩, ⟨"hud", true⟩, ⟨"", false⟩, ⟨"😀", false⟩, ⟨"shout", false⟩,
      ⟨"a,\n\"b\"", true⟩] .carriage,
    .empty .feed]
  last := some [⟨" ", false⟩, ⟨"", true⟩, ⟨"", false⟩, ⟨"", false⟩, ⟨"", false⟩, ⟨"", false⟩]

/-- A directory with the table in it. -/
def sampleTree : FileTree where
  entries :=
    [([FileTree.encodeName "a.csv"], .file (Source.fileOf true sampleTable.written))]
  workingDirectory := []

theorem sampleTree_holds : Source.Holds sampleTree (Path.ofText "a.csv") sampleTable := by
  refine ⟨by decide, by decide, ?_, by decide +kernel, rfl, true, rfl⟩
  have timers : ∀ cells ∈ sampleTable.rows, cells.length = Command.columnCount ∧
      ∀ t ∈ cells.head?, (Row.timer 1 (.text t)).isOk = true := by decide
  have texts : ∀ cells ∈ sampleTable.rows, ∀ t ∈ cells.tail,
      t.hasNull = false ∧ t.hasSurrogate = false := by decide
  intro cells listed
  refine ⟨(timers cells listed).1, ?_, ?_⟩
  · intro t first
    have accepted := (timers cells listed).2 t first
    cases read : Row.timer 1 (.text t) with
    | error failure => simp [read, Except.isOk, Except.toBool] at accepted
    | ok n => exact ⟨n, rfl⟩
  · intro t membership
    have storable := texts cells listed t membership
    exact ⟨storable.1, storable.2⟩

theorem compileFile_written_sampleTable :
    let outcome := compileFile none (Path.ofText "a.csv") (Path.ofText "a.sdf")
      ⟨"0.1.0", Script.magic⟩ none false sampleTree
    ∃ script parts,
      outcome.result = .ok ⟨Path.ofText "a.csv", Path.ofText "a.sdf", 2, 2, script.length⟩ ∧
      outcome.tree.content (Path.ofText "a.sdf") = .ok script ∧
      Script.decodeStamped? "0.1.0" script = some parts ∧
      List.Forall₂ Row.Spells sampleTable.rows parts.commands := by
  have loaded : Script.Config.load none none = .ok ⟨"0.1.0", Script.magic⟩ := rfl
  have speakable : FileTree.unspeakable? (Path.ofText "a.sdf").toText = none := rfl
  have missing : sampleTree.locate (Path.ofText "a.sdf") = .error .missing := rfl
  have parent : sampleTree.locate (Path.ofText "a.sdf").parent = .ok [] := rfl
  exact compileFile_written sampleTree_holds loaded speakable missing parent none false

/-- A name that the system does not take stands for nothing that exists, and for no output. -/
theorem not_forall_compileFile_written :
    ¬∀ (levels : Option Nat) (tree : FileTree) (source target : Path) (table : Csv.WrittenTable)
        (directory : Location) (asked environment : Option Text) (config : Script.Config),
      Source.Holds tree source table → Script.Config.load asked environment = .ok config →
      ¬tree.Leads target → tree.locate target.parent = .ok directory →
      tree.isDirectory directory = true →
      ∃ summary,
        (compileFile levels source target config none false tree).result = .ok summary := by
  intro every
  let target : Path := ⟨.relative, [List.replicate 256 'n']⟩
  have loaded : Script.Config.load none none = .ok ⟨"0.1.0", Script.magic⟩ := rfl
  have looked : Job.find? target sampleTree =
      ⟨sampleTree, [], .error (.brokeDown (.pathTooLong target))⟩ := by
    have located : sampleTree.locate target = .error .nameTooLong := by decide +kernel
    have speakable : (FileTree.unspeakable? target.toText).isSome = false := by decide +kernel
    unfold Job.find?
    simp only [speakable, Bool.false_eq_true, if_false, Job.tree_bind, located]
    rfl
  have nowhere : ¬sampleTree.Leads target := by
    obtain ⟨found, ran, leads⟩ := Job.find?_apply target sampleTree
    obtain rfl : _ = found := congrArg Outcome.result (looked.symm.trans ran)
    rw [leads]
    exact nofun
  obtain ⟨summary, result⟩ := every none sampleTree (Path.ofText "a.csv") target sampleTable []
    none none _ sampleTree_holds loaded nowhere rfl rfl
  obtain ⟨compilation, parts, made, -⟩ := sampleTree_holds.exists_isOf none loaded
  obtain ⟨before, after, -, -, ran⟩ := compileFile_apply made target none false
  rw [ran, Job.writeScript_eq, Job.bind_of_error looked] at result
  cases result

end EventScript
