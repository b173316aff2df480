import EventScript.Proofs.Script.Faults
import EventScript.Proofs.Text.Basic

/-!
# The first rule broken

A script is made unless a rule of the format is broken, and then the first one broken is told: those
for the settings come before those for the commands, a command before the next one, and in it the
timer before the texts in the order in which they are stored.
-/

namespace EventScript

namespace Unencodable

/-- The run is the first of its kind in the text, and as long as it can be. -/
inductive IsFirst (bad : CodePoint → Bool) (t : Text) : Unencodable → Prop
  | intro {front more rest : Text} {c : CodePoint} (split : t = front ++ c :: (more ++ rest))
    (clean : ∀ d ∈ front, bad d = false) (first : bad c = true) (further : ∀ d ∈ more, bad d = true)
    (ends : ∀ d ∈ rest.head?, bad d = false) : IsFirst bad t ⟨front.length, c, more.length + 1⟩

variable {bad : CodePoint → Bool} {t : Text} {run : Unencodable}

theorem find?_eq_some_iff : find? bad t = some run ↔ IsFirst bad t run := by
  unfold find?
  constructor
  · intro found
    have whole := List.takeWhile_append_dropWhile (p := (! bad ·)) (l := t)
    have stops := List.head?_dropWhile_not (! bad ·) t
    split at found
    · cases found
    · next c rest dropped =>
      cases found
      rw [dropped] at whole stops
      have split :
          t = t.takeWhile (! bad ·) ++ c :: (rest.takeWhile bad ++ rest.dropWhile bad) := by
        rw [List.takeWhile_append_dropWhile, whole]
      have later := List.head?_dropWhile_not bad rest
      refine .intro split ?_ (by simpa using stops) (List.all_eq_true.mp List.all_takeWhile) ?_
      · intro d early
        simpa using List.all_eq_true.mp List.all_takeWhile d early
      · intro d given
        rw [Option.mem_def.mp given] at later
        exact later
  · rintro @⟨front, more, rest, c, rfl, clean, first, further, ends⟩
    have early : ∀ d ∈ front, (! bad d) = true := fun d listed => by rw [clean d listed]; rfl
    have stops : ∀ d ∈ (c :: (more ++ rest)).head?, (! bad d) = false := by
      intro d given
      cases given
      rw [first]
      rfl
    simp only [Text.takeWhile_append_eq early stops, Text.dropWhile_append_eq early stops,
      Text.takeWhile_append_eq further ends]

end Unencodable

theorem Text.encodeAscii_eq_error_iff {t : Text} {run : Unencodable} :
    t.encodeAscii = .error run ↔ Unencodable.IsFirst (! ·.isAscii) t run := by
  rw [← Unencodable.find?_eq_some_iff, encodeAscii]
  split
  · next found => rw [found, Except.error.injEq, Option.some.injEq]
  · next clean => simp [clean]

namespace Script

/-- What a text breaks first. A null is told before surrogates are. -/
inductive BreaksText (t : Text) : EncodingFault → Prop
  | null (held : t.hasNull = true) : BreaksText t (.nullInText t)
  | surrogate {run : Unencodable} (free : t.hasNull = false)
    (first : Unencodable.IsFirst CodePoint.isSurrogate t run) :
    BreaksText t (.textNotUtf8 t run)

/-- What a command breaks first. -/
inductive BreaksCommand (command : Command) : EncodingFault → Prop
  | timer (beyond : ¬(Word.least ≤ command.timer ∧ command.timer ≤ Word.greatest)) :
    BreaksCommand command (.timer command.timer)
  | text {before after : List Text} {t : Text} {fault : EncodingFault}
    (within : Word.least ≤ command.timer ∧ command.timer ≤ Word.greatest)
    (split : command.texts = before ++ t :: after) (storable : ∀ u ∈ before, u.IsStorable)
    (breaks : BreaksText t fault) : BreaksCommand command fault

/-- What the settings break first. -/
inductive BreaksHeader (config : Config) : EncodingFault → Prop
  | magicSize (other : config.magic.length ≠ magicSize) :
    BreaksHeader config (.magicSize config.magic.length)
  | notAscii {run : Unencodable} (sized : config.magic.length = magicSize)
    (first : Unencodable.IsFirst (! ·.isAscii) config.stamp run) :
    BreaksHeader config (.stampNotAscii run)
  | stamp (sized : config.magic.length = magicSize) (ascii : config.stamp.isAscii = true)
    (unfit : config.stamp = [] ∨ config.stamp.hasNull = true) :
    BreaksHeader config (.stamp config.stamp)

/-- What a script of these commands breaks first. -/
inductive Breaks (config : Config) (commands : List Command) : EncodingFault → Prop
  | header {fault : EncodingFault} (breaks : BreaksHeader config fault) :
    Breaks config commands fault
  | command {before after : List Command} {command : Command} {fault : EncodingFault}
    (wellFormed : config.WellFormed) (split : commands = before ++ command :: after)
    (storable : ∀ earlier ∈ before, earlier.IsStorable) (breaks : BreaksCommand command fault) :
    Breaks config commands fault

variable {config : Config} {commands : List Command} {command : Command} {t : Text}
  {fault : EncodingFault} {failure : Failure}

theorem BreaksText.textFailure?_eq (breaks : BreaksText t fault) :
    textFailure? t = some (.refused (.encoding fault)) := by
  cases breaks with
  | null held => rw [textFailure?, if_pos held]
  | surrogate free first =>
    rw [textFailure?, free, if_neg Bool.false_ne_true, surrogateFailure?,
      Unencodable.find?_eq_some_iff.mpr first]
    rfl

theorem exists_breaksText (found : textFailure? t = some failure) :
    ∃ fault, BreaksText t fault ∧ failure = .refused (.encoding fault) := by
  unfold textFailure? surrogateFailure? at found
  split at found
  · next held =>
    cases found
    exact ⟨_, .null held, rfl⟩
  · next free =>
    obtain ⟨run, first, rfl⟩ := Option.map_eq_some_iff.mp found
    exact ⟨_, .surrogate (by simpa using free) (Unencodable.find?_eq_some_iff.mp first), rfl⟩

theorem BreaksCommand.commandFailure?_eq (breaks : BreaksCommand command fault)
    (writable : Numeral.isWritable command.timer = true) :
    commandFailure? command = some (.refused (.encoding fault)) := by
  unfold commandFailure?
  cases breaks with
  | timer beyond => rw [timerFailure?, if_neg beyond, if_pos writable, Option.some_or]
  | text within split storable broken =>
    rw [timerFailure?_eq_none_iff.mpr within, Option.none_or, List.findSome?_eq_some_iff]
    refine ⟨_, _, _, split, broken.textFailure?_eq, ?_⟩
    intro u early
    exact textFailure?_eq_none_iff.mpr (storable u early)

theorem exists_breaksCommand (writable : Numeral.isWritable command.timer = true)
    (found : commandFailure? command = some failure) :
    ∃ fault, BreaksCommand command fault ∧ failure = .refused (.encoding fault) := by
  rw [commandFailure?, Option.or_eq_some_iff] at found
  rcases found with timer | ⟨within, texts⟩
  · unfold timerFailure? at timer
    split at timer
    · cases timer
    · next beyond =>
      cases timer
      exact ⟨_, .timer beyond, rfl⟩
  · obtain ⟨before, t, after, split, broken, clean⟩ := List.findSome?_eq_some_iff.mp texts
    obtain ⟨fault, breaks, rfl⟩ := exists_breaksText broken
    refine ⟨fault, .text (timerFailure?_eq_none_iff.mp within) split ?_ breaks, rfl⟩
    intro u early
    exact textFailure?_eq_none_iff.mp (clean u early)

theorem BreaksHeader.headerFailure?_eq (breaks : BreaksHeader config fault) :
    headerFailure? config = some (.refused (.encoding fault)) := by
  unfold headerFailure? Config.stampBytes
  cases breaks with
  | magicSize other => rw [if_pos other]
  | notAscii sized first =>
    rw [if_neg (not_not_intro sized), Text.encodeAscii_eq_error_iff.mpr first]
  | stamp sized ascii unfit =>
    rw [if_neg (not_not_intro sized), Text.encodeAscii_eq_ok ascii]
    exact if_pos unfit

theorem exists_breaksHeader (found : headerFailure? config = some failure) :
    ∃ fault, BreaksHeader config fault ∧ failure = .refused (.encoding fault) := by
  unfold headerFailure? at found
  split at found
  · next other =>
    cases found
    exact ⟨_, .magicSize other, rfl⟩
  · next sized =>
    rw [not_not] at sized
    split at found
    · next run refused =>
      cases found
      exact ⟨_, .notAscii sized (Text.encodeAscii_eq_error_iff.mp refused), rfl⟩
    · next stamp carried =>
      split at found
      · next unfit =>
        cases found
        exact ⟨_, .stamp sized (Text.isAscii_of_encodeAscii carried) unfit, rfl⟩
      · cases found

/-- A script of commands whose timers can be shown fails for the first rule that is broken. -/
theorem encode_eq_error_iff_breaks
    (writable : ∀ command ∈ commands, Numeral.isWritable command.timer = true) :
    encode commands config = .error failure ↔
      ∃ fault, Breaks config commands fault ∧ failure = .refused (.encoding fault) := by
  rw [encode_eq_error_iff, Option.or_eq_some_iff, headerFailure?_eq_none_iff,
    List.findSome?_eq_some_iff]
  simp only [commandFailure?_eq_none_iff]
  constructor
  · rintro (header | ⟨wellFormed, before, command, after, split, broken, storable⟩)
    · obtain ⟨fault, breaks, rfl⟩ := exists_breaksHeader header
      exact ⟨fault, .header breaks, rfl⟩
    · have shown := writable command (by simp [split])
      obtain ⟨fault, breaks, rfl⟩ := exists_breaksCommand shown broken
      exact ⟨fault, .command wellFormed split storable breaks, rfl⟩
  · rintro ⟨fault, broken, rfl⟩
    cases broken with
    | header breaks => exact .inl breaks.headerFailure?_eq
    | @command before after command _ wellFormed split storable breaks =>
      have shown := writable command (by simp [split])
      exact .inr ⟨wellFormed, before, command, after, split, breaks.commandFailure?_eq shown,
        storable⟩

/-- A script is made of commands exactly if the settings and every one of them keep to the format.
Otherwise it is refused, and for the first rule that is broken. -/
theorem encode_verdict (writable : ∀ command ∈ commands, Numeral.isWritable command.timer = true) :
    ((∃ script, encode commands config = .ok script) ↔
      config.WellFormed ∧ ∀ command ∈ commands, command.IsStorable) ∧
    ∀ failure, encode commands config = .error failure ↔
      ∃ fault, Breaks config commands fault ∧ failure = .refused (.encoding fault) :=
  ⟨exists_encode_iff, fun _ => encode_eq_error_iff_breaks writable⟩

/-- A command that can be stored, and two that cannot, the first of them for three reasons. -/
def strayCommands : List Command := [
  ⟨-1, "hud", "all", "boss", "show", "hello"⟩,
  ⟨5, "hud", "all", [.ofNat 0xD83D, .ofNat 0], [.ofNat 0xDE00], "hello"⟩,
  ⟨0x8000000000000000, "hud", "all", "boss", "show", [.ofNat 0]⟩]

theorem encode_verdict_strayCommands :
    (∀ command ∈ strayCommands, Numeral.isWritable command.timer = true) ∧
      encode strayCommands ⟨"1", magic⟩ =
        .error (.refused (.encoding (.nullInText [.ofNat 0xD83D, .ofNat 0]))) := by
  have writable : ∀ command ∈ strayCommands, Numeral.isWritable command.timer = true := by
    decide +kernel
  have ordinary : ∀ t ∈ ["hud", "all", "boss", "show", "hello"].map Text.ofString,
      t.IsStorable := by
    have clean : ∀ t ∈ ["hud", "all", "boss", "show", "hello"].map Text.ofString,
        t.hasNull = false ∧ t.hasSurrogate = false := by decide
    exact fun t listed => ⟨(clean t listed).1, (clean t listed).2⟩
  have storable : ∀ earlier ∈ strayCommands.take 1, earlier.IsStorable :=
    List.forall_mem_singleton.mpr ⟨by decide, by decide, ordinary⟩
  have breaks : BreaksCommand strayCommands[1] (.nullInText [.ofNat 0xD83D, .ofNat 0]) := by
    have split : strayCommands[1].texts = ["hud", "all"].map Text.ofString ++
        [.ofNat 0xD83D, .ofNat 0] :: [[.ofNat 0xDE00], "hello"] := rfl
    refine .text ⟨by decide, by decide⟩ split ?_ (.null rfl)
    exact fun t early => ordinary t (List.mem_append_left _ early)
  have wellFormed : Config.WellFormed ⟨"1", magic⟩ := ⟨rfl, nofun, by decide, by decide⟩
  have split : strayCommands = strayCommands.take 1 ++ strayCommands[1] :: [strayCommands[2]] := rfl
  exact ⟨writable, ((encode_verdict writable).2 _).mpr
    ⟨_, .command wellFormed split storable breaks, rfl⟩⟩

end Script

end EventScript
