import EventScript.Proofs.Except
import EventScript.Proofs.Row.Timer
import EventScript.Proofs.Script.Contribution
import EventScript.Row.Command
import Mathlib.Data.List.Forall2

/-!
# Tables of commands

The fold over the rows gives one command per row, in their order. Rows of texts give the texts back
as they are.
-/

namespace EventScript.Row

variable {rows : List Row} {commands : List Command}

/-- What the fold gives behind the commands that it has. -/
theorem toCommandsFrom_eq_mapM (start : Nat) (done : List Command) (rows : List Row) :
    toCommandsFrom start done rows =
      ((rows.zipIdx start).mapM (fun place => toCommand place.2 place.1) >>= fun made =>
        pure (done.reverse ++ made)) := by
  induction rows generalizing start done with
  | nil => simp [toCommandsFrom, pure, Except.pure, bind, Except.bind]
  | cons row rest ih =>
    rw [toCommandsFrom, List.zipIdx_cons, List.mapM_cons]
    cases made : toCommand start row with
    | error failure => rfl
    | ok command =>
      have next : (start : Int) + 1 = (start + 1 : Nat) := rfl
      simp only [next, ih, bind_assoc, pure_bind, List.reverse_cons, List.append_assoc,
        List.singleton_append]
      rfl

/-- With rows a table gives what its rows give one after the other. -/
theorem toCommands_eq_mapM (nonempty : rows ≠ []) :
    toCommands rows = (rows.zipIdx 1).mapM fun place => toCommand place.2 place.1 := by
  have folded : toCommandsFrom 1 [] rows =
      (rows.zipIdx 1).mapM fun place => toCommand place.2 place.1 := by
    simpa using toCommandsFrom_eq_mapM 1 [] rows
  unfold toCommands
  rw [folded]
  split
  · next failed => rw [failed]
  · next made =>
    have none : rows.zipIdx 1 = [] := List.forall₂_nil_right_iff.mp (Except.mapM_eq_ok_iff.mp made)
    exact absurd (List.zipIdx_eq_nil_iff.mp none) nonempty
  · next made => rw [made]

theorem toCommands_eq_ok_iff_numbered :
    toCommands rows = .ok commands ↔ rows ≠ [] ∧
      List.Forall₂ (fun place command => toCommand place.2 place.1 = .ok command) (rows.zipIdx 1)
        commands := by
  by_cases empty : rows = []
  · subst empty
    simp [toCommands, toCommandsFrom]
  · rw [toCommands_eq_mapM empty, Except.mapM_eq_ok_iff, ne_eq, eq_true empty, true_and]

theorem length_of_toCommands (validated : toCommands rows = .ok commands) :
    commands.length = rows.length := by
  have pairs := (toCommands_eq_ok_iff_numbered.mp validated).2
  rw [← pairs.length_eq, List.length_zipIdx]

theorem toCommands_of_forall₂ (nonempty : rows ≠ [])
    (good : List.Forall₂ (fun row command => ∀ number, toCommand number row = .ok command) rows
      commands) :
    toCommands rows = .ok commands := by
  rw [← List.zipIdx_map_fst 1 rows, List.forall₂_map_left_iff] at good
  exact toCommands_eq_ok_iff_numbered.mpr
    ⟨nonempty, good.imp fun place command anywhere => anywhere place.2⟩

/-- The cells of a row of texts from which a command is made: one spells its timer, the others are
its texts as they are. -/
structure Spells (cells : List Text) (command : Command) : Prop where
  cells_eq : ∃ timerCell, cells = timerCell :: command.texts ∧
    ∀ number, timer number (.text timerCell) = .ok command.timer
  storable : ∀ t ∈ command.texts, t.IsStorable

theorem text_eq_ok {number : Int} {column t : Text} (noNull : t.hasNull = false) :
    text number column (.text t) = .ok t := by
  simp [text, spell, noNull]

theorem Spells.toCommand_eq {cells : List Text} {command : Command} (spells : Spells cells command)
    (number : Int) : toCommand number (cells.map Value.text) = .ok command := by
  obtain ⟨⟨timerCell, rfl, accepted⟩, storable⟩ := spells
  have taken (column t : Text) (membership : t ∈ command.texts) :
      text number column (.text t) = .ok t :=
    text_eq_ok (storable t membership).hasNull_eq
  simp only [Command.texts, List.mem_cons, List.not_mem_nil, or_false] at taken
  simp only [Command.texts, List.map_cons, List.map_nil, toCommand, accepted,
    taken _ command.system (.inl rfl), taken _ command.recipient (.inr (.inl rfl)),
    taken _ command.sender (.inr (.inr (.inl rfl))),
    taken _ command.verb (.inr (.inr (.inr (.inl rfl)))),
    taken _ command.argument (.inr (.inr (.inr (.inr rfl))))]
  rfl

theorem Spells.isStorable {cells : List Text} {command : Command}
    (spells : Spells cells command) : command.IsStorable := by
  obtain ⟨⟨timerCell, -, accepted⟩, storable⟩ := spells
  exact ⟨(timer_mem (accepted 1)).1, (timer_mem (accepted 1)).2, storable⟩

/-- Six cells, of which the first spells a timer and the others can be stored. -/
structure IsCompilable (cells : List Text) : Prop where
  length_eq : cells.length = Command.columnCount
  timer_eq : ∀ t ∈ cells.head?, ∃ n, timer 1 (.text t) = .ok n
  texts : ∀ t ∈ cells.tail, t.IsStorable

namespace IsCompilable

variable {cells : List Text}

theorem exists_spells (compilable : IsCompilable cells) : ∃ command, Spells cells command := by
  obtain ⟨length_eq, timer_eq, texts⟩ := compilable
  match cells with
  | [timerCell, system, recipient, sender, verb, argument] =>
    obtain ⟨n, accepted⟩ := timer_eq timerCell rfl
    exact ⟨⟨n, system, recipient, sender, verb, argument⟩,
      ⟨timerCell, rfl, fun _ => timer_eq_ok_of_timer accepted⟩, texts⟩

theorem isSurrogate_eq (compilable : IsCompilable cells) :
    ∀ t ∈ cells, ∀ c ∈ t, c.isSurrogate = false := by
  intro t membership c inside
  cases cells with
  | nil => cases membership
  | cons timerCell texts =>
    rcases List.mem_cons.mp membership with rfl | listed
    · obtain ⟨n, accepted⟩ := compilable.timer_eq t rfl
      have small := val_le_of_timer accepted inside
      simp only [CodePoint.isSurrogate, Bool.and_eq_false_iff, decide_eq_false_iff_not]
      omega
    · have storable := compilable.texts t listed
      exact Text.hasSurrogate_eq_false_iff.mp storable.hasSurrogate_eq c inside

theorem val_le_of_head? (compilable : IsCompilable cells) :
    ∀ t ∈ cells.head?, ∀ c ∈ t.head?, c.val ≤ 0x3000 := by
  intro t first c start
  obtain ⟨n, accepted⟩ := compilable.timer_eq t first
  exact val_le_of_timer accepted (List.mem_of_head? start)

end IsCompilable

/-- Every table of rows that can be compiled spells one command per row. -/
theorem exists_forall₂_spells {rows : List (List Text)}
    (compilable : ∀ cells ∈ rows, IsCompilable cells) :
    ∃ commands, List.Forall₂ Spells rows commands := by
  induction rows with
  | nil => exact ⟨[], .nil⟩
  | cons cells rest ih =>
    obtain ⟨command, spells⟩ := (compilable cells List.mem_cons_self).exists_spells
    obtain ⟨commands, others⟩ := ih fun other listed =>
      compilable other (List.mem_cons_of_mem cells listed)
    exact ⟨command :: commands, .cons spells others⟩

theorem isStorable_of_spells {rows : List (List Text)} {commands : List Command}
    (spells : List.Forall₂ Spells rows commands) : ∀ command ∈ commands, command.IsStorable :=
  spells.forall_mem_right fun _ _ spelled => spelled.isStorable

theorem toCommands_of_spells {rows : List (List Text)} {commands : List Command}
    (nonempty : rows ≠ []) (spells : List.Forall₂ Spells rows commands) :
    toCommands (rows.map fun cells => cells.map Value.text) = .ok commands := by
  apply toCommands_of_forall₂
  · simpa using nonempty
  · rw [List.forall₂_map_left_iff]
    exact spells.imp fun cells command spelled => spelled.toCommand_eq

end EventScript.Row
