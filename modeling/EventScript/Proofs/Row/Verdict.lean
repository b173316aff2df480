import EventScript.Proofs.Failure
import EventScript.Proofs.Row.Rendering

/-!
# Verdicts on tables

A table with rows is accepted if each row is good, and gives the commands that its rows make. Else
the first bad row decides, and in it the first of its length, its timer and its texts that is wrong.
-/

namespace EventScript

theorem CellFlaw.message_injective : Function.Injective CellFlaw.message := by
  intro flaw other same
  cases flaw <;> cases other <;> first | rfl | exact absurd same (by decide)

namespace Row

variable {number : Int} {column t : Text} {cell timerCell : Value} {flaw : CellFlaw}
  {cells : List Value} {row : Row} {rows : List Row} {command : Command} {commands : List Command}
  {refusal : Refusal} {failure : Failure}

/-! ## Cells -/

/-- A flaw of a cell that keeps it from being stored, by what its refusal says of it. -/
def Flawed (flaw : CellFlaw) : Value → Prop
  | .list _ => flaw.message = "must be text, not list"
  | .dict _ => flaw.message = "must be text, not dict"
  | .text t => t.hasNull = true ∧ flaw.message = "contains a null byte"
  | _ => False

theorem Flawed.text_eq (flawed : Flawed flaw cell) (number : Int) (column : Text) :
    text number column cell = .error (.refused (.cell number column flaw)) := by
  cases cell with
  | list items =>
    obtain rfl : flaw = .list := CellFlaw.message_injective flawed
    rfl
  | dict members =>
    obtain rfl : flaw = .dict := CellFlaw.message_injective flawed
    rfl
  | text t =>
    obtain ⟨null, reason⟩ := flawed
    obtain rfl : flaw = .null := CellFlaw.message_injective reason
    simp only [text, spell, null, if_true]
  | null | bool | int | double => exact flawed.elim

/-- What is spelled without being a text has no null in it. -/
theorem exists_becomes_of_spell (other : cell.text? = none) (spelled : spell 1 [] cell = .ok t) :
    ∃ t, Becomes cell t := by
  refine ⟨t, 1, [], ?_⟩
  rw [text, spelled]
  simp only [(isVisible_of_spell spelled other).hasNull_eq]
  rfl

theorem exists_becomes_or (writable : cell.HasWritableIntegers) :
    (∃ t, Becomes cell t) ∨ ∃ flaw, Flawed flaw cell := by
  cases cell with
  | list items => exact .inr ⟨.list, rfl⟩
  | dict members => exact .inr ⟨.dict, rfl⟩
  | text t =>
    cases null : t.hasNull with
    | true => exact .inr ⟨.null, null, rfl⟩
    | false => exact .inl ⟨t, 1, [], text_eq_ok null⟩
  | null => exact .inl (exists_becomes_of_spell rfl rfl)
  | bool b => exact .inl (exists_becomes_of_spell rfl rfl)
  | int n =>
    have spelled : spell 1 [] (.int n) = .ok (Numeral.write n) := by
      rw [spell, if_pos (writable n List.mem_cons_self)]
    exact .inl (exists_becomes_of_spell rfl spelled)
  | double x =>
    obtain ⟨t, written⟩ := exists_spellDouble_eq x
    have spelled : spell 1 [] (.double x) = .ok t := by
      rw [spell, written]
      rfl
    exact .inl (exists_becomes_of_spell rfl spelled)

theorem Becomes.not_flawed (becomes : Becomes cell t) (flaw : CellFlaw) : ¬Flawed flaw cell := by
  intro flawed
  cases (becomes.text_eq 1 []).symm.trans (flawed.text_eq 1 [])

theorem exists_text_eq_ok_iff (writable : cell.HasWritableIntegers) :
    (∃ t, text number column cell = .ok t) ↔ ∀ flaw, ¬Flawed flaw cell := by
  constructor
  · rintro ⟨t, stored⟩
    exact Becomes.not_flawed ⟨number, column, stored⟩
  · intro unflawed
    rcases exists_becomes_or writable with ⟨t, becomes⟩ | ⟨flaw, flawed⟩
    · exact ⟨t, becomes.text_eq number column⟩
    · exact absurd flawed (unflawed flaw)

theorem text_eq_error_iff (writable : cell.HasWritableIntegers) :
    text number column cell = .error failure ↔
      ∃ flaw, Flawed flaw cell ∧ failure = .refused (.cell number column flaw) := by
  constructor
  · intro failed
    rcases exists_becomes_or writable with ⟨t, becomes⟩ | ⟨flaw, flawed⟩
    · cases failed.symm.trans (becomes.text_eq number column)
    · exact ⟨flaw, flawed, Except.error.inj (failed.symm.trans (flawed.text_eq number column))⟩
  · rintro ⟨flaw, flawed, rfl⟩
    exact flawed.text_eq number column

/-! ## Rows -/

/-- Six cells: one that stands for a number, and five that can be stored. -/
structure IsGood (row : Row) : Prop where
  length_eq : row.length = Command.columnCount
  stands : ∃ cell ∈ row.head?, ∃ i, StandsFor cell i
  unflawed : ∀ cell ∈ row.tail, ∀ flaw, ¬Flawed flaw cell

/-- The first thing wrong with a row, as its refusal has it. Texts are looked at from left to right,
in the order in which they are stored. -/
inductive Faulty (number : Int) : Row → Refusal → Prop
  | rowLength {row : Row} (wrong : row.length ≠ Command.columnCount) :
    Faulty number row (.rowLength number row.length)
  | timer {timerCell : Value} {cells : List Value}
    (length_eq : (timerCell :: cells).length = Command.columnCount)
    (noNumber : ∀ i, ¬StandsFor timerCell i) :
    Faulty number (timerCell :: cells) (.timer number timerCell)
  | cell {timerCell cell : Value} {cells : List Value} {i : Int} {column : Text} {flaw : CellFlaw}
    {before after : List (Text × Value)}
    (length_eq : (timerCell :: cells).length = Command.columnCount)
    (stands : StandsFor timerCell i)
    (split : Command.textNames.zip cells = before ++ (column, cell) :: after)
    (unflawed : ∀ earlier ∈ before, ∀ flaw, ¬Flawed flaw earlier.2) (flawed : Flawed flaw cell) :
    Faulty number (timerCell :: cells) (.cell number column flaw)

/-- The command of a timer and five texts. -/
def assemble (timer : Int) (texts : List Text) : Command :=
  ⟨timer, texts.getD 0 [], texts.getD 1 [], texts.getD 2 [], texts.getD 3 [], texts.getD 4 []⟩

theorem toCommand_cons (length_eq : (timerCell :: cells).length = Command.columnCount) :
    toCommand number (timerCell :: cells) = (timer number timerCell >>= fun n =>
      (Command.textNames.zip cells).mapM (fun column => text number column.1 column.2) >>=
        fun texts => pure (assemble n texts)) := by
  -- The length leaves no other pattern. Both sides ask for the same texts in the same order.
  match cells, length_eq with
  | [system, recipient, sender, verb, argument], _ =>
    simp only [toCommand, Command.textNames, List.zip_cons_cons, List.zip_nil_right,
      List.mapM_cons, List.mapM_nil, bind_assoc, pure_bind]
    rfl

theorem toCommand_cons_eq_error_iff
    (length_eq : (timerCell :: cells).length = Command.columnCount) :
    toCommand number (timerCell :: cells) = .error failure ↔
      timer number timerCell = .error failure ∨ (∃ n, timer number timerCell = .ok n) ∧
        ∃ before column after, Command.textNames.zip cells = before ++ column :: after ∧
          (∀ earlier ∈ before, ∃ t, text number earlier.1 earlier.2 = .ok t) ∧
          text number column.1 column.2 = .error failure := by
  rw [toCommand_cons length_eq]
  simp only [Except.bind_eq_error_iff, Except.mapM_eq_error_iff, pure, Except.pure, reduceCtorEq,
    and_false, exists_false, or_false, exists_and_right]

theorem writable_of_zip (writable : ∀ cell ∈ timerCell :: cells, cell.HasWritableIntegers) :
    ∀ column ∈ Command.textNames.zip cells, column.2.HasWritableIntegers := by
  intro column listed
  exact writable _ (List.mem_cons_of_mem _ (List.of_mem_zip listed).2)

theorem toCommand_of_length_ne (wrong : row.length ≠ Command.columnCount) :
    toCommand number row = .error (.refused (.rowLength number row.length)) := by
  unfold toCommand
  split
  · exact absurd rfl wrong
  · rfl

theorem Faulty.toCommand_eq (faulty : Faulty number row refusal)
    (writable : ∀ cell ∈ row, cell.HasWritableIntegers) :
    toCommand number row = .error (.refused refusal) := by
  cases faulty with
  | rowLength wrong => exact toCommand_of_length_ne wrong
  | timer length_eq noNumber =>
    rw [List.forall_mem_cons] at writable
    rw [toCommand_cons_eq_error_iff length_eq, timer_eq_error_iff writable.1]
    exact .inl ⟨noNumber, rfl⟩
  | cell length_eq stands split unflawed flawed =>
    have given := writable_of_zip writable
    rw [split, List.forall_mem_append] at given
    rw [toCommand_cons_eq_error_iff length_eq]
    refine .inr ⟨⟨_, stands.timer_eq number⟩, _, _, _, split, ?_, flawed.text_eq number _⟩
    intro earlier listed
    exact (exists_text_eq_ok_iff (given.1 earlier listed)).mpr (unflawed earlier listed)

theorem Faulty.stage_eq (faulty : Faulty number row refusal) : refusal.stage = .validating := by
  cases faulty with
  | rowLength | timer | cell => rfl

/-- A row of which no command is made has a first fault. -/
theorem exists_faulty_of_toCommand (writable : ∀ cell ∈ row, cell.HasWritableIntegers)
    (failed : toCommand number row = .error failure) :
    ∃ refusal, Faulty number row refusal ∧ failure = .refused refusal := by
  by_cases length_eq : row.length = Command.columnCount
  · cases row with
    | nil => cases length_eq
    | cons timerCell cells =>
      rcases (toCommand_cons_eq_error_iff length_eq).mp failed with
        refused | ⟨⟨n, accepted⟩, before, ⟨column, cell⟩, after, split, stored, refused⟩
      · rw [List.forall_mem_cons] at writable
        obtain ⟨noNumber, rfl⟩ := (timer_eq_error_iff writable.1).mp refused
        exact ⟨_, .timer length_eq noNumber, rfl⟩
      · obtain ⟨i, stands, -⟩ := timer_eq_ok_iff.mp accepted
        have given := writable_of_zip writable
        rw [split, List.forall_mem_append, List.forall_mem_cons] at given
        obtain ⟨flaw, flawed, rfl⟩ := (text_eq_error_iff given.2.1).mp refused
        refine ⟨_, .cell length_eq stands split ?_ flawed, rfl⟩
        intro earlier listed
        exact (exists_text_eq_ok_iff (given.1 earlier listed)).mp (stored earlier listed)
  · rw [toCommand_of_length_ne length_eq] at failed
    cases failed
    exact ⟨_, .rowLength length_eq, rfl⟩

theorem Makes.isGood (makes : Makes row command) : IsGood row := by
  obtain ⟨⟨timerCell, head, number, accepted⟩, texts⟩ := makes
  obtain ⟨cells, rfl⟩ := List.head?_eq_some_iff.mp head
  obtain ⟨i, stands, -⟩ := timer_eq_ok_iff.mp accepted
  exact ⟨congrArg Nat.succ texts.length_eq, ⟨timerCell, rfl, i, stands⟩,
    texts.forall_mem_left fun cell t becomes => becomes.not_flawed⟩

theorem IsGood.not_faulty (good : IsGood row) : ¬Faulty number row refusal := by
  intro faulty
  cases faulty with
  | rowLength wrong => exact wrong good.length_eq
  | timer length_eq noNumber =>
    obtain ⟨_, head, i, stands⟩ := good.stands
    cases head
    exact noNumber i stands
  | @cell timerCell cell cells i column flaw before after length_eq stands split unflawed flawed =>
    have listed : (column, cell) ∈ Command.textNames.zip cells := by simp [split]
    exact good.unflawed cell (List.of_mem_zip listed).2 flaw flawed

/-- A row is good if a command is made from it. -/
theorem isGood_iff (writable : ∀ cell ∈ row, cell.HasWritableIntegers) :
    IsGood row ↔ ∃ command, Makes row command := by
  constructor
  · intro good
    cases made : toCommand 1 row with
    | ok command => exact ⟨command, makes_of_toCommand made⟩
    | error failure =>
      obtain ⟨refusal, faulty, -⟩ := exists_faulty_of_toCommand writable made
      exact absurd faulty good.not_faulty
  · rintro ⟨command, makes⟩
    exact makes.isGood

/-! ## Tables -/

theorem toCommands_eq_ok_iff :
    toCommands rows = .ok commands ↔ rows ≠ [] ∧ List.Forall₂ Makes rows commands := by
  constructor
  · intro validated
    have nonempty : rows ≠ [] := by
      rintro rfl
      cases validated
    exact ⟨nonempty, makes_of_toCommands validated⟩
  · rintro ⟨nonempty, make⟩
    exact toCommands_of_forall₂ nonempty (make.imp fun _ _ makes => makes.toCommand_eq)

/-- A table fails as its first row of which no command is made. -/
theorem toCommands_eq_error_iff_first (nonempty : rows ≠ []) :
    toCommands rows = .error failure ↔
      ∃ before row after, rows = before ++ row :: after ∧
        (∀ earlier ∈ before, ∃ command, Makes earlier command) ∧
        toCommand (before.length + 1) row = .error failure := by
  -- A command is made at any place or at none, so the rows before do not need their numbers.
  have withoutNumbers (before : List Row) :
      (∀ place ∈ before.zipIdx 1, ∃ command, Makes place.1 command) ↔
        ∀ earlier ∈ before, ∃ command, Makes earlier command := by
    conv_rhs => rw [← List.zipIdx_map_fst 1 before, List.forall_mem_map]
  have place_eq (before : List Row) : ((1 + before.length : Nat) : Int) = before.length + 1 := by
    omega
  rw [toCommands_eq_mapM nonempty, Except.mapM_eq_error_iff]
  simp only [toCommand_eq_ok_iff, ← place_eq]
  constructor
  · rintro ⟨numbered, ⟨row, place⟩, after, split, good, failed⟩
    obtain ⟨before, rest, rfl, rfl, others⟩ := List.zipIdx_eq_append_iff.mp split
    obtain ⟨_, later, rfl, same, -⟩ := List.zipIdx_eq_cons_iff.mp others.symm
    cases same
    exact ⟨before, row, later, rfl, (withoutNumbers before).mp good, failed⟩
  · rintro ⟨before, row, after, rfl, good, failed⟩
    rw [List.zipIdx_append, List.zipIdx_cons]
    exact ⟨_, _, _, rfl, (withoutNumbers before).mpr good, failed⟩

theorem toCommands_eq_error_iff
    (writable : ∀ row ∈ rows, ∀ cell ∈ row, cell.HasWritableIntegers) :
    toCommands rows = .error failure ↔
      rows = [] ∧ failure = .refused .empty ∨
        ∃ before row after refusal, rows = before ++ row :: after ∧
          (∀ earlier ∈ before, IsGood earlier) ∧ Faulty (before.length + 1) row refusal ∧
          failure = .refused refusal := by
  by_cases empty : rows = []
  · subst empty
    simp [toCommands, toCommandsFrom, eq_comm]
  · rw [toCommands_eq_error_iff_first empty]
    constructor
    · rintro ⟨before, row, after, split, good, failed⟩
      have inside : row ∈ rows := by simp [split]
      obtain ⟨refusal, faulty, rfl⟩ := exists_faulty_of_toCommand (writable row inside) failed
      refine .inr ⟨before, row, after, refusal, split, ?_, faulty, rfl⟩
      intro earlier listed
      obtain ⟨command, makes⟩ := good earlier listed
      exact makes.isGood
    · rintro (⟨none, -⟩ | ⟨before, row, after, refusal, split, good, faulty, rfl⟩)
      · exact absurd none empty
      · rw [split, List.forall_mem_append, List.forall_mem_cons] at writable
        refine ⟨before, row, after, split, ?_, faulty.toCommand_eq writable.2.1⟩
        intro earlier listed
        exact (isGood_iff (writable.1 earlier listed)).mp (good earlier listed)

theorem exists_toCommands_eq_ok_iff
    (writable : ∀ row ∈ rows, ∀ cell ∈ row, cell.HasWritableIntegers) :
    (∃ commands, toCommands rows = .ok commands) ↔ rows ≠ [] ∧ ∀ row ∈ rows, IsGood row := by
  constructor
  · rintro ⟨commands, validated⟩
    obtain ⟨nonempty, make⟩ := toCommands_eq_ok_iff.mp validated
    exact ⟨nonempty, make.forall_mem_left fun row command makes => makes.isGood⟩
  · rintro ⟨nonempty, good⟩
    cases verdict : toCommands rows with
    | ok commands => exact ⟨commands, rfl⟩
    | error failure =>
      rcases (toCommands_eq_error_iff writable).mp verdict with
        ⟨empty, -⟩ | ⟨before, row, after, refusal, split, -, faulty, -⟩
      · exact absurd empty nonempty
      · exact absurd faulty (good row (by simp [split])).not_faulty

/-- Without very long integers each table gives its commands or is refused. -/
theorem settles_toCommands
    (writable : ∀ row ∈ rows, ∀ cell ∈ row, cell.HasWritableIntegers) :
    Settles [.validating] (fun commands => toCommands rows = .ok commands) (toCommands rows) := by
  cases verdict : toCommands rows with
  | ok commands => exact .gives rfl
  | error failure =>
    rcases (toCommands_eq_error_iff writable).mp verdict with
      ⟨-, rfl⟩ | ⟨before, row, after, refusal, -, -, faulty, rfl⟩
    · exact .refused List.mem_cons_self
    · exact .refused (List.mem_singleton.mpr faulty.stage_eq)

/-- A row either makes a command or has a first fault, and never both. -/
theorem makes_or_faulty (writable : ∀ cell ∈ row, cell.HasWritableIntegers) (number : Int) :
    (∃ command, Makes row command ∧ toCommand number row = .ok command ∧
      ∀ refusal, ¬Faulty number row refusal) ∨
    ∃ refusal, Faulty number row refusal ∧ toCommand number row = .error (.refused refusal) ∧
      ∀ command, ¬Makes row command := by
  cases made : toCommand number row with
  | ok command =>
    have makes := makes_of_toCommand made
    exact .inl ⟨command, makes, rfl, fun refusal => makes.isGood.not_faulty⟩
  | error failure =>
    obtain ⟨refusal, faulty, rfl⟩ := exists_faulty_of_toCommand writable made
    exact .inr ⟨refusal, faulty, rfl, fun command makes => makes.isGood.not_faulty faulty⟩

/-- A table gives the commands that its rows make, one from each and in their order, as long as it
has rows and all of them are good. Otherwise it is refused as empty, or for the first thing wrong
with its first bad row, whatever comes after that. -/
theorem toCommands_verdict {rows : List Row}
    (writable : ∀ row ∈ rows, ∀ cell ∈ row, cell.HasWritableIntegers) :
    (∀ commands, toCommands rows = .ok commands ↔
      rows ≠ [] ∧ List.Forall₂ Makes rows commands) ∧
    ((∃ commands, toCommands rows = .ok commands) ↔ rows ≠ [] ∧ ∀ row ∈ rows, IsGood row) ∧
    (∀ commands, toCommands rows = .ok commands → commands.length = rows.length ∧
      ∀ command ∈ commands, (Word.least ≤ command.timer ∧ command.timer ≤ Word.greatest) ∧
        ∀ t ∈ command.texts, t.hasNull = false) ∧
    (∀ failure, toCommands rows = .error failure ↔
      rows = [] ∧ failure = .refused .empty ∨
        ∃ before row after refusal, rows = before ++ row :: after ∧
          (∀ earlier ∈ before, IsGood earlier) ∧ Faulty (before.length + 1) row refusal ∧
          failure = .refused refusal) ∧
    ∀ row ∈ rows, ∀ number,
      (∃ command, Makes row command ∧ toCommand number row = .ok command ∧
        ∀ refusal, ¬Faulty number row refusal) ∨
      ∃ refusal, Faulty number row refusal ∧ toCommand number row = .error (.refused refusal) ∧
        ∀ command, ¬Makes row command := by
  refine ⟨fun _ => toCommands_eq_ok_iff, exists_toCommands_eq_ok_iff writable, ?_,
    fun _ => toCommands_eq_error_iff writable, ?_⟩
  · intro commands validated
    have make := makes_of_toCommands validated
    exact ⟨length_of_toCommands validated,
      make.forall_mem_right fun row command makes => ⟨makes.timer_mem, makes.hasNull_eq⟩⟩
  · intro row listed
    exact makes_or_faulty (writable row listed)

/-- The second row has a list and after it a null, and the third row lacks all its cells. -/
def unfitTable : List Row :=
  [.int 20 :: ["hud", "all", "boss", "show", "hello"].map Value.text,
    [.int 16, .text "hud", .list [.int 7], .text [.ofNat 0], .text "show", .null],
    []]

theorem toCommands_verdict_unfitTable :
    (∀ row ∈ unfitTable, ∀ cell ∈ row, cell.HasWritableIntegers) ∧
      toCommands unfitTable = .error (.refused (.cell 2 "to" .list)) := by
  have writable : ∀ row ∈ unfitTable, ∀ cell ∈ row, cell.HasWritableIntegers := by decide +kernel
  have storable {t : Text} (noNull : t.hasNull = false) (flaw : CellFlaw) :
      ¬Flawed flaw (.text t) :=
    Becomes.not_flawed ⟨1, [], text_eq_ok noNull⟩ flaw
  have good : ∀ earlier ∈ unfitTable.take 1, IsGood earlier := by
    have noNull : ∀ t ∈ ["hud", "all", "boss", "show", "hello"].map Text.ofString,
        t.hasNull = false := by decide
    refine List.forall_mem_singleton.mpr ⟨rfl, ⟨_, rfl, 20, .int⟩, List.forall_mem_map.mpr ?_⟩
    exact fun t listed => storable (noNull t listed)
  have faulty : Faulty 2 unfitTable[1] (.cell 2 "to" .list) := by
    have unflawed : ∀ earlier ∈ [(Text.ofString "system", Value.text "hud")],
        ∀ flaw, ¬Flawed flaw earlier.2 := List.forall_mem_singleton.mpr (storable rfl)
    have flawed : Flawed .list (.list [.int 7]) := rfl
    exact .cell rfl .int rfl unflawed flawed
  refine ⟨writable, ((toCommands_verdict writable).2.2.2.1 _).mpr (.inr ?_)⟩
  exact ⟨unfitTable.take 1, unfitTable[1], [[]], _, rfl, good, faulty, rfl⟩

end Row

end EventScript
