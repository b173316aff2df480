import EventScript.Proofs.Except
import EventScript.Proofs.Number.Written
import EventScript.Proofs.Row.Command

/-!
# What cells become

Each command of a table comes from the row in its place, and each of its texts from a cell of that
row: from a text the same text, and from any other cell a text in visible ASCII. Nulls are in none
of them.
-/

namespace EventScript

/-- The text of a cell that holds one. -/
def Value.text? : Value → Option Text
  | .text t => some t
  | _ => none

namespace Row

variable {number : Int} {column t : Text} {cell : Value} {row : Row} {command : Command}

theorem exists_spellDouble_eq (x : Double) : ∃ t, spellDouble x = .ok t := by
  unfold spellDouble
  split
  · next n whole =>
    rw [if_pos (Double.isWritable_of_toInt? whole)]
    exact ⟨_, rfl⟩
  · exact ⟨_, rfl⟩

theorem isVisible_of_spellDouble {x : Double} (spelled : spellDouble x = .ok t) :
    t.IsVisible := by
  unfold spellDouble at spelled
  split at spelled
  · split at spelled
    · cases spelled
      exact Numeral.isVisible_write _
    · cases spelled
  · cases spelled
    exact Double.isVisible_write x

/-- Only texts bring code points beyond visible ASCII. -/
theorem isVisible_of_spell (spelled : spell number column cell = .ok t)
    (other : cell.text? = none) : t.IsVisible := by
  cases cell with
  | text u => cases other
  | null =>
    cases spelled
    decide
  | bool b => cases b <;> cases spelled <;> decide
  | int n =>
    simp only [spell] at spelled
    split at spelled
    · cases spelled
      exact Numeral.isVisible_write n
    · cases spelled
  | double x =>
    cases written : spellDouble x with
    | error fault =>
      rw [spell, written] at spelled
      cases spelled
    | ok u =>
      rw [spell, written] at spelled
      cases spelled
      exact isVisible_of_spellDouble written
  | list items => cases spelled
  | dict members => cases spelled

theorem of_text_eq_ok (stored : text number column cell = .ok t) :
    spell number column cell = .ok t ∧ t.hasNull = false := by
  unfold text at stored
  split at stored
  · cases stored
  · next u spelled =>
    split at stored
    · cases stored
    · next noNull =>
      cases stored
      exact ⟨spelled, by simpa using noNull⟩

/-- A cell becomes a text of a command in some column of some row. -/
def Becomes (cell : Value) (t : Text) : Prop :=
  ∃ number column, text number column cell = .ok t

theorem Becomes.hasNull_eq (becomes : Becomes cell t) : t.hasNull = false := by
  obtain ⟨number, column, stored⟩ := becomes
  exact (of_text_eq_ok stored).2

/-- What a cell becomes does not depend on where it is. -/
theorem Becomes.text_eq (becomes : Becomes cell t) (number : Int) (column : Text) :
    text number column cell = .ok t := by
  obtain ⟨row, name, stored⟩ := becomes
  obtain ⟨spelled, noNull⟩ := of_text_eq_ok stored
  have anywhere : spell number column cell = .ok t := by
    cases cell with
    | list items => cases spelled
    | dict members => cases spelled
    | null | bool | int | double | text => exact spelled
  rw [text, anywhere]
  simp only [noNull]
  rfl

theorem Becomes.eq_of_text? (becomes : Becomes cell t) {u : Text} (same : cell.text? = some u) :
    t = u := by
  obtain ⟨number, column, stored⟩ := becomes
  cases cell with
  | text v =>
    cases same
    exact (Except.ok.inj (of_text_eq_ok stored).1).symm
  | null | bool | int | double | list | dict => cases same

theorem Becomes.isVisible_of_text? (becomes : Becomes cell t) (other : cell.text? = none) :
    t.IsVisible := by
  obtain ⟨number, column, stored⟩ := becomes
  exact isVisible_of_spell (of_text_eq_ok stored).1 other

/-- The row that a command is made from: a cell for its timer, then one for each of its texts. -/
structure Makes (row : Row) (command : Command) : Prop where
  timer_eq : ∃ timerCell ∈ row.head?, ∃ number, timer number timerCell = .ok command.timer
  texts : List.Forall₂ Becomes row.tail command.texts

theorem makes_of_toCommand (made : toCommand number row = .ok command) : Makes row command := by
  unfold toCommand at made
  split at made
  · next timerCell system recipient sender verb argument =>
    obtain ⟨n, accepted, made⟩ := Except.exists_of_bind_eq_ok made
    obtain ⟨first, firstMade, made⟩ := Except.exists_of_bind_eq_ok made
    obtain ⟨second, secondMade, made⟩ := Except.exists_of_bind_eq_ok made
    obtain ⟨third, thirdMade, made⟩ := Except.exists_of_bind_eq_ok made
    obtain ⟨fourth, fourthMade, made⟩ := Except.exists_of_bind_eq_ok made
    obtain ⟨fifth, fifthMade, made⟩ := Except.exists_of_bind_eq_ok made
    cases made
    refine ⟨⟨timerCell, rfl, number, accepted⟩, ?_⟩
    exact .cons ⟨_, _, firstMade⟩ (.cons ⟨_, _, secondMade⟩ (.cons ⟨_, _, thirdMade⟩
      (.cons ⟨_, _, fourthMade⟩ (.cons ⟨_, _, fifthMade⟩ .nil))))
  · cases made

/-- A row makes one command at most, wherever it is in the table. -/
theorem Makes.toCommand_eq (makes : Makes row command) (number : Int) :
    toCommand number row = .ok command := by
  obtain ⟨⟨timerCell, head, other, accepted⟩, texts⟩ := makes
  obtain ⟨cells, rfl⟩ := List.head?_eq_some_iff.mp head
  simp only [Command.texts, List.tail_cons, List.forall₂_cons_right_iff,
    List.forall₂_nil_right_iff] at texts
  obtain ⟨_, _, system, ⟨_, _, recipient, ⟨_, _, sender, ⟨_, _, verb, ⟨_, _, argument, rfl, rfl⟩,
    rfl⟩, rfl⟩, rfl⟩, rfl⟩ := texts
  simp only [toCommand, timer_eq_ok_of_timer accepted, system.text_eq, recipient.text_eq,
    sender.text_eq, verb.text_eq, argument.text_eq]
  rfl

theorem toCommand_eq_ok_iff : toCommand number row = .ok command ↔ Makes row command :=
  ⟨makes_of_toCommand, fun makes => makes.toCommand_eq number⟩

theorem Makes.timer_mem (makes : Makes row command) :
    Word.least ≤ command.timer ∧ command.timer ≤ Word.greatest := by
  obtain ⟨timerCell, -, number, accepted⟩ := makes.timer_eq
  exact Row.timer_mem accepted

theorem Makes.hasNull_eq (makes : Makes row command) : ∀ t ∈ command.texts, t.hasNull = false :=
  makes.texts.forall_mem_right fun _ _ becomes => becomes.hasNull_eq

/-- A table that is accepted has made each command from the row in its place. -/
theorem makes_of_toCommands {rows : List Row} {commands : List Command}
    (validated : toCommands rows = .ok commands) : List.Forall₂ Makes rows commands := by
  have pairs := (toCommands_eq_ok_iff_numbered.mp validated).2
  rw [← List.zipIdx_map_fst 1 rows, List.forall₂_map_left_iff]
  exact pairs.imp fun place command made => makes_of_toCommand made

/-- The cells of a row that hold texts and are stored as such. -/
def textCells (row : Row) : List Text :=
  row.tail.filterMap Value.text?

end Row

end EventScript
