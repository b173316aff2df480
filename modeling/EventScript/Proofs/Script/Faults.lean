import EventScript.Proofs.Failure
import EventScript.Proofs.Row.Rendering
import EventScript.Proofs.Script.Contribution

/-!
# Why a script cannot be encoded

An operation fails for the same reason whatever the buffer holds, and a row of operations as the
first of them that fails. Commands of an accepted table have nothing wrong with them but surrogates.
-/

namespace EventScript

namespace Script

def commandFailure? (command : Command) : Option Failure :=
  (timerFailure? command.timer).or (command.texts.findSome? textFailure?)

theorem findSome?_cons_eq_or {α : Type} (f : α → Option Failure) (a : α) (rest : List α) :
    (a :: rest).findSome? f = (f a).or (rest.findSome? f) := by
  rw [List.findSome?_cons]
  cases f a <;> rfl

/-- The operation fails for this reason or not at all, whatever the buffer holds. -/
def Writing.Fails (writing : Writing Unit) (failure? : Option Failure) : Prop :=
  ∀ buffer : Buffer, (writing.on buffer).2 = failure?

namespace Writing

theorem Contributes.fails {writing : Writing Unit} {bytes : Bytes} {failure? : Option Failure}
    (contributes : writing.Contributes bytes failure?) : writing.Fails failure? :=
  fun buffer => congrArg Prod.snd (contributes buffer)

theorem Atomic.fails {writing : Writing Unit} {bytes : Bytes} {failure? : Option Failure}
    (atomic : writing.Atomic bytes failure?) : writing.Fails failure? :=
  Contributes.fails atomic

theorem Fails.bind {first : Writing Unit} {next : Unit → Writing Unit}
    {failure? later? : Option Failure} (start : first.Fails failure?)
    (rest : (next ()).Fails later?) : Fails (first >>= next) (failure?.or later?) := by
  intro buffer
  have ends := start buffer
  rw [on_bind, ← ends]
  rcases first.on buffer with ⟨after, - | failure⟩
  · exact rest after
  · rfl

end Writing

open Writing

theorem fails_writeTexts (texts : List Text) :
    (writeTexts texts).Fails (texts.findSome? textFailure?) := by
  induction texts with
  | nil => exact contributes_pure.fails
  | cons t rest ih =>
    rw [findSome?_cons_eq_or]
    exact (atomic_writeText t).fails.bind ih

theorem fails_writeCommand (command : Command) :
    (writeCommand command).Fails (commandFailure? command) :=
  (atomic_writeTimer command.timer).fails.bind (fails_writeTexts command.texts)

theorem fails_writeCommands (commands : List Command) :
    (writeCommands commands).Fails (commands.findSome? commandFailure?) := by
  induction commands with
  | nil => exact contributes_pure.fails
  | cons command rest ih =>
    rw [findSome?_cons_eq_or]
    exact (fails_writeCommand command).bind ih

/-- Encoding fails for what is wrong with its settings, and else as its first command that fails. -/
theorem encode_eq_error_iff {config : Config} {commands : List Command} {failure : Failure} :
    encode commands config = .error failure ↔
      (headerFailure? config).or (commands.findSome? commandFailure?) = some failure := by
  have count := (contributes_writeBytes (countField commands.length)).fails
  have whole : (writeScript commands config).Fails
      ((headerFailure? config).or (commands.findSome? commandFailure?)) :=
    (atomic_writeHeader config).fails.bind (count.bind (fails_writeCommands commands))
  have ends := whole .empty
  unfold encode
  rw [← ends]
  rcases (writeScript commands config).on .empty with ⟨buffer, - | other⟩
  · simp
  · simp

/-! ## What can be encoded -/

theorem commandFailure?_eq_none_iff {command : Command} :
    commandFailure? command = none ↔ command.IsStorable := by
  rw [commandFailure?, Option.or_eq_none_iff, timerFailure?_eq_none_iff, List.findSome?_eq_none_iff]
  simp only [textFailure?_eq_none_iff]
  constructor
  · rintro ⟨⟨low, high⟩, texts⟩
    exact ⟨low, high, texts⟩
  · rintro ⟨low, high, texts⟩
    exact ⟨⟨low, high⟩, texts⟩

/-- A script is made of every list of commands that can be stored, and of no other. -/
theorem exists_encode_iff {config : Config} {commands : List Command} :
    (∃ script, encode commands config = .ok script) ↔
      config.WellFormed ∧ ∀ command ∈ commands, command.IsStorable := by
  constructor
  · rintro ⟨script, encoded⟩
    have unfailing :
        (headerFailure? config).or (commands.findSome? commandFailure?) = none := by
      rw [Option.eq_none_iff_forall_ne_some]
      intro failure failed
      cases encoded.symm.trans (encode_eq_error_iff.mpr failed)
    rw [Option.or_eq_none_iff, headerFailure?_eq_none_iff, List.findSome?_eq_none_iff] at unfailing
    simp only [commandFailure?_eq_none_iff] at unfailing
    exact unfailing
  · rintro ⟨wellFormed, storable⟩
    exact ⟨_, encode_eq_ok wellFormed wellFormed.stampBytes_eq storable⟩

/-! ## Accepted tables -/

theorem isSome_surrogateFailure? {t : Text} : (surrogateFailure? t).isSome = t.hasSurrogate := by
  cases clean : t.hasSurrogate with
  | false => rw [surrogateFailure?_eq_none_iff.mpr clean, Option.isSome_none]
  | true =>
    rw [Option.isSome_iff_ne_none, Ne, surrogateFailure?_eq_none_iff, clean]
    exact nofun

theorem textFailure?_of_becomes {cell : Value} {t : Text} (becomes : Row.Becomes cell t) :
    textFailure? t = cell.text?.bind surrogateFailure? := by
  rw [textFailure?, becomes.hasNull_eq]
  cases held : cell.text? with
  | none =>
    exact surrogateFailure?_eq_none_iff.mpr (becomes.isVisible_of_text? held).hasSurrogate_eq
  | some u =>
    rw [becomes.eq_of_text? held]
    rfl

/-- Texts that cells become fail as the texts that these cells hold. -/
theorem findSome?_textFailure?_of_becomes {cells : List Value} {texts : List Text}
    (become : List.Forall₂ Row.Becomes cells texts) :
    texts.findSome? textFailure? = (cells.filterMap Value.text?).findSome? surrogateFailure? := by
  induction become with
  | nil => rfl
  | @cons cell t cells texts becomes _ ih =>
    rw [findSome?_cons_eq_or, ih, textFailure?_of_becomes becomes]
    cases held : cell.text? with
    | none => rw [List.filterMap_cons_none held, Option.bind_none, Option.none_or]
    | some u => rw [List.filterMap_cons_some held, Option.bind_some, findSome?_cons_eq_or]

theorem commandFailure?_of_makes {row : Row} {command : Command} (makes : Row.Makes row command) :
    commandFailure? command = (Row.textCells row).findSome? surrogateFailure? := by
  rw [commandFailure?, timerFailure?, if_pos makes.timer_mem, Option.none_or,
    findSome?_textFailure?_of_becomes makes.texts, Row.textCells]

theorem findSome?_commandFailure?_of_makes {rows : List Row} {commands : List Command}
    (make : List.Forall₂ Row.Makes rows commands) :
    commands.findSome? commandFailure? =
      (rows.flatMap Row.textCells).findSome? surrogateFailure? := by
  induction make with
  | nil => rfl
  | cons makes _ ih =>
    rw [findSome?_cons_eq_or, commandFailure?_of_makes makes, ih, List.flatMap_cons,
      List.findSome?_append]

theorem encode_eq_error_iff_of_toCommands {asked environment : Option Text} {config : Config}
    {rows : List Row} {commands : List Command} {failure : Failure}
    (loaded : Config.load asked environment = .ok config)
    (validated : Row.toCommands rows = .ok commands) :
    encode commands config = .error failure ↔
      (rows.flatMap Row.textCells).findSome? surrogateFailure? = some failure := by
  rw [encode_eq_error_iff, headerFailure?_eq_none_iff.mpr (Config.wellFormed_of_load loaded),
    Option.none_or,
    findSome?_commandFailure?_of_makes (Row.makes_of_toCommands validated)]

theorem exists_fault_of_headerFailure? {config : Config} {failure : Failure}
    (found : headerFailure? config = some failure) :
    ∃ fault, failure = .refused (.encoding fault) := by
  unfold headerFailure? at found
  repeat' split at found
  all_goals cases found
  all_goals exact ⟨_, rfl⟩

theorem exists_fault_of_surrogateFailure? {t : Text} {failure : Failure}
    (found : surrogateFailure? t = some failure) :
    ∃ fault, failure = .refused (.encoding fault) := by
  obtain ⟨run, -, rfl⟩ := Option.map_eq_some_iff.mp found
  exact ⟨_, rfl⟩

/-- Whatever the settings, the timers of an accepted table are not what keeps it from being
encoded, and all else is told without a breakdown. -/
theorem exists_fault_of_encode {config : Config} {rows : List Row} {commands : List Command}
    {failure : Failure} (validated : Row.toCommands rows = .ok commands)
    (failed : encode commands config = .error failure) :
    ∃ fault, failure = .refused (.encoding fault) := by
  rw [encode_eq_error_iff, findSome?_commandFailure?_of_makes (Row.makes_of_toCommands validated),
    Option.or_eq_some_iff] at failed
  rcases failed with header | ⟨-, record⟩
  · exact exists_fault_of_headerFailure? header
  · obtain ⟨t, -, found⟩ := List.exists_of_findSome?_eq_some record
    exact exists_fault_of_surrogateFailure? found

theorem settles_encode {rows : List Row} {commands : List Command}
    (validated : Row.toCommands rows = .ok commands) (config : Config) :
    Settles [.encoding] (fun _ => True) (encode commands config) := by
  cases encoded : encode commands config with
  | ok script => exact .gives trivial
  | error failure =>
    obtain ⟨fault, rfl⟩ := exists_fault_of_encode validated encoded
    exact .refused List.mem_cons_self

/-- Of an accepted table only surrogates keep the script from being encoded. The first text cell
that has any, row by row and in each row from left to right, is the one that is refused. -/
theorem encode_of_toCommands {asked environment : Option Text} {config : Config} {rows : List Row}
    {commands : List Command} (loaded : Config.load asked environment = .ok config)
    (validated : Row.toCommands rows = .ok commands) :
    ((∃ failure, encode commands config = .error failure) ↔
      ∃ row ∈ rows, ∃ t ∈ Row.textCells row, t.hasSurrogate = true) ∧
    ∀ failure, encode commands config = .error failure →
      ∃ before t after run,
        rows.flatMap Row.textCells = before ++ t :: after ∧
        (∀ u ∈ before, u.hasSurrogate = false) ∧ t.hasSurrogate = true ∧
        Unencodable.find? CodePoint.isSurrogate t = some run ∧
        failure = .refused (.encoding (.textNotUtf8 t run)) := by
  have failures (failure : Failure) :=
    @encode_eq_error_iff_of_toCommands asked environment config rows commands failure loaded
      validated
  constructor
  · simp only [failures, ← Option.isSome_iff_exists, List.findSome?_isSome_iff,
      isSome_surrogateFailure?, List.mem_flatMap]
    constructor
    · rintro ⟨t, ⟨row, listed, held⟩, surrogate⟩
      exact ⟨row, listed, t, held, surrogate⟩
    · rintro ⟨row, listed, t, held, surrogate⟩
      exact ⟨t, ⟨row, listed, held⟩, surrogate⟩
  · intro failure failed
    obtain ⟨before, t, after, divided, found, clean⟩ :=
      List.findSome?_eq_some_iff.mp ((failures failure).mp failed)
    obtain ⟨run, first, same⟩ := Option.map_eq_some_iff.mp found
    refine ⟨before, t, after, run, divided, ?_, ?_, first, same.symm⟩
    · intro u early
      exact surrogateFailure?_eq_none_iff.mp (clean u early)
    · rw [← isSome_surrogateFailure?, found, Option.isSome_some]

theorem encode_of_toCommands_half :
    ∃ config commands t run,
      Config.load none (some " 1.0\n") = .ok config ∧
      Row.toCommands [[.int 0x10000000000000001, .text "hud", .null, .bool true, .text "say",
        .text [CodePoint.ofNat 0xD83D]]] = .ok commands ∧
      encode commands config = .error (.refused (.encoding (.textNotUtf8 t run))) ∧
      t.hasSurrogate = true := by
  have loaded : Config.load none (some " 1.0\n") = .ok { stamp := "1.0" } := by rfl
  have validated : Row.toCommands [[.int 0x10000000000000001, .text "hud", .null, .bool true,
      .text "say", .text [CodePoint.ofNat 0xD83D]]] =
      .ok [⟨1, "hud", "null", "true", "say", [CodePoint.ofNat 0xD83D]⟩] := by rfl
  obtain ⟨fails, first⟩ := encode_of_toCommands loaded validated
  have half : Text.hasSurrogate [CodePoint.ofNat 0xD83D] = true := by rfl
  obtain ⟨failure, failed⟩ := fails.mpr ⟨_, List.mem_cons_self, _, by decide, half⟩
  obtain ⟨before, t, after, run, -, -, surrogate, -, rfl⟩ := first failure failed
  exact ⟨_, _, t, run, loaded, validated, failed, surrogate⟩

end Script

end EventScript
