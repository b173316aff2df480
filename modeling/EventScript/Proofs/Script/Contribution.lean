import EventScript.Proofs.Number.Word
import EventScript.Proofs.Text.Utf8
import EventScript.Script.Encoding

/-!
# What operations contribute to a script

An operation appends the same bytes to every buffer, and fails for the same reason in each or in
none. A timer, a text or a header is appended as a whole or not at all. The bytes of a script that
can be stored are its header, its count field and the records of its commands, one after the other.
-/

namespace EventScript

/-- A text that can be stored: it has bytes, and none of them is taken for its end. -/
structure Text.IsStorable (t : Text) : Prop where
  hasNull_eq : t.hasNull = false
  hasSurrogate_eq : t.hasSurrogate = false

structure Command.IsStorable (command : Command) : Prop where
  least_le : Word.least ≤ command.timer
  le_greatest : command.timer ≤ Word.greatest
  texts : ∀ t ∈ command.texts, t.IsStorable

namespace Script

/-- Settings that a script can begin with. -/
structure Config.WellFormed (config : Config) : Prop where
  length_magic : config.magic.length = magicSize
  stamp_ne_nil : config.stamp ≠ []
  isAscii_stamp : config.stamp.isAscii = true
  hasNull_stamp : config.stamp.hasNull = false

def textRecord (t : Text) : Bytes :=
  t.flatMap Utf8.encodeOne ++ terminator

def record (command : Command) : Bytes :=
  Word.encode command.timer ++ command.texts.flatMap textRecord

namespace Buffer

@[simp] theorem append_nil (buffer : Buffer) : buffer.append [] = buffer := by
  simp [append]

@[simp] theorem append_append (buffer : Buffer) (first second : Bytes) :
    (buffer.append first).append second = buffer.append (first ++ second) := by
  simp [append, ← Array.toList_inj]

end Buffer

/-- Whatever the buffer holds, the operation appends `bytes` to it, and it fails for the reason
given or not at all. -/
def Writing.Contributes (writing : Writing Unit) (bytes : Bytes) (failure? : Option Failure) :
    Prop :=
  ∀ buffer : Buffer, writing.on buffer = (buffer.append bytes, failure?)

namespace Writing

theorem run_bind (first : Writing Unit) (next : Unit → Writing Unit) (buffer : Buffer) :
    (first >>= next).run.run buffer =
      match first.run.run buffer with
      | (.ok (), after) => (next ()).run.run after
      | (.error failure, after) => (.error failure, after) := by
  rw [ExceptT.run_bind, StateT.run_bind]
  rcases first.run.run buffer with ⟨failure | ⟨⟩, after⟩ <;> rfl

theorem on_bind (first : Writing Unit) (next : Unit → Writing Unit) (buffer : Buffer) :
    on (first >>= next) buffer =
      match first.on buffer with
      | (after, none) => on (next ()) after
      | (after, some failure) => (after, some failure) := by
  unfold on
  rw [run_bind]
  rcases first.run.run buffer with ⟨failure | ⟨⟩, after⟩ <;> rfl

theorem contributes_pure : Contributes (pure ()) [] none := by
  intro buffer
  rw [Buffer.append_nil]
  rfl

theorem contributes_throw (failure : Failure) :
    Contributes (throw failure) [] (some failure) := by
  intro buffer
  rw [Buffer.append_nil]
  rfl

theorem contributes_writeBytes (bytes : Bytes) : Contributes (writeBytes bytes) bytes none :=
  fun _ => rfl

theorem Contributes.bind {first : Writing Unit} {next : Unit → Writing Unit}
    {bytes more : Bytes} {failure? : Option Failure}
    (start : first.Contributes bytes none) (rest : (next ()).Contributes more failure?) :
    Contributes (first >>= next) (bytes ++ more) failure? := by
  intro buffer
  rw [on_bind, start buffer]
  simp only [rest (buffer.append bytes), Buffer.append_append]

/-- What follows a failing operation is not carried out. -/
theorem Contributes.bind_error {first : Writing Unit} {next : Unit → Writing Unit} {bytes : Bytes}
    {failure : Failure} (start : first.Contributes bytes (some failure)) :
    Contributes (first >>= next) bytes (some failure) := by
  intro buffer
  rw [on_bind, start buffer]

end Writing

open Writing

/-! ## Operations that fail as a whole -/

def surrogateFailure? (t : Text) : Option Failure :=
  (Unencodable.find? CodePoint.isSurrogate t).map fun run =>
    .refused (.encoding (.textNotUtf8 t run))

/-- What keeps a text out of a script; a null is found before surrogates are. -/
def textFailure? (t : Text) : Option Failure :=
  if t.hasNull then some (.refused (.encoding (.nullInText t))) else surrogateFailure? t

def timerFailure? (n : Int) : Option Failure :=
  if Word.least ≤ n ∧ n ≤ Word.greatest then none
  else if Numeral.isWritable n then some (.refused (.encoding (.timer n)))
  else some (.brokeDown (.numeral .unwritable))

/-- What is wrong with the settings themselves, whatever the commands. -/
def headerFailure? (config : Config) : Option Failure :=
  if config.magic.length ≠ magicSize then
    some (.refused (.encoding (.magicSize config.magic.length)))
  else match config.stampBytes with
    | .error run => some (.refused (.encoding (.stampNotAscii run)))
    | .ok _ =>
      if config.stamp = [] ∨ config.stamp.hasNull then
        some (.refused (.encoding (.stamp config.stamp)))
      else none

theorem surrogateFailure?_eq_none_iff {t : Text} :
    surrogateFailure? t = none ↔ t.hasSurrogate = false := by
  rw [surrogateFailure?, Option.map_eq_none_iff, Unencodable.find?_eq_none_iff,
    Text.hasSurrogate_eq_false_iff]

theorem textFailure?_eq_none_iff {t : Text} : textFailure? t = none ↔ t.IsStorable := by
  unfold textFailure?
  cases null : t.hasNull with
  | true =>
    constructor
    · exact nofun
    · intro storable
      cases null.symm.trans storable.hasNull_eq
  | false =>
    rw [if_neg Bool.false_ne_true, surrogateFailure?_eq_none_iff]
    exact ⟨fun clean => ⟨null, clean⟩, fun storable => storable.hasSurrogate_eq⟩

theorem timerFailure?_eq_none_iff {n : Int} :
    timerFailure? n = none ↔ Word.least ≤ n ∧ n ≤ Word.greatest := by
  unfold timerFailure?
  split
  · next within => exact ⟨fun _ => within, fun _ => rfl⟩
  · next beyond =>
    constructor
    · intro clean
      split at clean <;> cases clean
    · intro within
      exact absurd within beyond

theorem Config.WellFormed.stampBytes_eq {config : Config} (wellFormed : config.WellFormed) :
    config.stampBytes = .ok (config.stamp.map fun c => UInt8.ofNat c.val) :=
  Text.encodeAscii_eq_ok wellFormed.isAscii_stamp

theorem headerFailure?_eq_none_iff {config : Config} :
    headerFailure? config = none ↔ config.WellFormed := by
  constructor
  · intro clean
    unfold headerFailure? at clean
    split at clean
    · cases clean
    · next sized =>
      split at clean
      · cases clean
      · next stamp carried =>
        split at clean
        · cases clean
        · next accepted =>
          rw [not_or] at accepted
          exact ⟨not_not.mp sized, accepted.1, Text.isAscii_of_encodeAscii carried,
            by simpa using accepted.2⟩
  · intro wellFormed
    have accepted : ¬(config.stamp = [] ∨ config.stamp.hasNull = true) := by
      rw [wellFormed.hasNull_stamp]
      simp [wellFormed.stamp_ne_nil]
    rw [headerFailure?, if_neg (not_not_intro wellFormed.length_magic), wellFormed.stampBytes_eq]
    exact if_neg accepted

/-- The operation appends all of its bytes, or it fails and appends nothing. -/
abbrev Writing.Atomic (writing : Writing Unit) (bytes : Bytes) (failure? : Option Failure) : Prop :=
  writing.Contributes (failure?.elim bytes fun _ => []) failure?

theorem Writing.Atomic.contributes {writing : Writing Unit} {bytes : Bytes}
    {failure? : Option Failure} (atomic : writing.Atomic bytes failure?) (clean : failure? = none) :
    writing.Contributes bytes none := by
  subst clean
  exact atomic

theorem Writing.Atomic.contributes_nil {writing : Writing Unit} {bytes : Bytes}
    {failure? : Option Failure} {failure : Failure} (atomic : writing.Atomic bytes failure?)
    (failed : failure? = some failure) : writing.Contributes [] (some failure) := by
  subst failed
  exact atomic

theorem atomic_writeTimer (n : Int) : (writeTimer n).Atomic (Word.encode n) (timerFailure? n) := by
  unfold writeTimer timerFailure?
  split
  · exact contributes_writeBytes _
  · split
    · exact contributes_throw _
    · exact contributes_throw _

theorem atomic_writeText (t : Text) : (writeText t).Atomic (textRecord t) (textFailure? t) := by
  unfold writeText textFailure? surrogateFailure? Utf8.encode
  split
  · exact contributes_throw _
  · cases Unencodable.find? CodePoint.isSurrogate t with
    | none => exact contributes_writeBytes _
    | some run => exact contributes_throw _

theorem atomic_writeHeader (config : Config) :
    (writeHeader config).Atomic (config.magic ++ config.stamp.map fun c => UInt8.ofNat c.val)
      (headerFailure? config) := by
  unfold writeHeader headerFailure? Config.stampBytes Text.encodeAscii
  split
  · exact contributes_throw _
  · cases Unencodable.find? (! ·.isAscii) config.stamp with
    | some run => exact contributes_throw _
    | none =>
      simp only
      split
      · exact contributes_throw _
      · exact contributes_writeBytes _

theorem contributes_writeTimer {n : Int} (low : Word.least ≤ n) (high : n ≤ Word.greatest) :
    (writeTimer n).Contributes (Word.encode n) none :=
  (atomic_writeTimer n).contributes (timerFailure?_eq_none_iff.mpr ⟨low, high⟩)

theorem contributes_writeText {t : Text} (storable : t.IsStorable) :
    (writeText t).Contributes (textRecord t) none :=
  (atomic_writeText t).contributes (textFailure?_eq_none_iff.mpr storable)

theorem contributes_writeHeader {config : Config} (wellFormed : config.WellFormed) {stamp : Bytes}
    (stampBytes : config.stampBytes = .ok stamp) :
    (writeHeader config).Contributes (config.magic ++ stamp) none := by
  obtain rfl := Except.ok.inj (wellFormed.stampBytes_eq.symm.trans stampBytes)
  exact (atomic_writeHeader config).contributes (headerFailure?_eq_none_iff.mpr wellFormed)

/-! ## Sequences of operations -/

theorem contributes_writeTexts {texts : List Text} (storable : ∀ t ∈ texts, t.IsStorable) :
    (writeTexts texts).Contributes (texts.flatMap textRecord) none := by
  induction texts with
  | nil => exact contributes_pure
  | cons t rest ih =>
    have first := contributes_writeText (storable t List.mem_cons_self)
    have others := ih fun u membership => storable u (List.mem_cons_of_mem t membership)
    exact first.bind others

theorem contributes_writeCommand {command : Command} (storable : command.IsStorable) :
    (writeCommand command).Contributes (record command) none :=
  (contributes_writeTimer storable.least_le storable.le_greatest).bind
    (contributes_writeTexts storable.texts)

theorem contributes_writeCommands {commands : List Command}
    (storable : ∀ command ∈ commands, command.IsStorable) :
    (writeCommands commands).Contributes (commands.flatMap record) none := by
  induction commands with
  | nil => exact contributes_pure
  | cons command rest ih =>
    have first := contributes_writeCommand (storable command List.mem_cons_self)
    have others := ih fun other membership =>
      storable other (List.mem_cons_of_mem command membership)
    exact first.bind others

/-- Settings that a user chooses are ones that a script can begin with. -/
theorem Config.wellFormed_of_load {asked environment : Option Text} {config : Config}
    (loaded : Config.load asked environment = .ok config) : config.WellFormed := by
  unfold Config.load checkStamp at loaded
  split at loaded
  · cases loaded
  · next stamp checked =>
    cases loaded
    split at checked
    · cases checked
    · next nonempty =>
      split at checked
      · cases checked
      · next ascii =>
        split at checked
        · cases checked
        · next noNull =>
          cases checked
          exact ⟨rfl, nonempty, by simpa using ascii, by simpa using noNull⟩

/-- The bytes of a script that can be stored. -/
theorem encode_eq_ok {config : Config} {commands : List Command} {stamp : Bytes}
    (wellFormed : config.WellFormed) (stampBytes : config.stampBytes = .ok stamp)
    (storable : ∀ command ∈ commands, command.IsStorable) :
    encode commands config =
      .ok (config.magic ++ stamp ++ (countField commands.length ++ commands.flatMap record)) := by
  have header := contributes_writeHeader wellFormed stampBytes
  have body : Contributes (writeCount commands.length >>= fun _ => writeCommands commands)
      (countField commands.length ++ commands.flatMap record) none :=
    (contributes_writeBytes _).bind (contributes_writeCommands storable)
  unfold encode writeScript
  rw [header.bind body]
  simp only [Buffer.toList_append, Buffer.toList_empty, List.nil_append]

end Script

end EventScript
