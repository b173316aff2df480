import EventScript.Proofs.Script.Canonical
import EventScript.Proofs.Script.Faults

/-!
# Short scripts

A script that breaks off can be read only where it breaks off between two records, and then as the
commands before that point. Records end where their fifth text ends and nowhere before, whatever
null bytes their timers hold, so what is left of one is never taken for another.
-/

namespace EventScript.Script

theorem readCommands?_eq_some_iff {bytes : Bytes} {commands : List Command} :
    readCommands? bytes = some commands ↔
      (∀ command ∈ commands, command.IsStorable) ∧ bytes = commands.flatMap record := by
  constructor
  · exact readCommands?_sound
  · rintro ⟨storable, rfl⟩
    exact readCommands?_flatMap_record storable

/-- A record is found at the front of the bytes that begin with it, and no other is. -/
theorem record_append_inj {first second : Command} {after rest : Bytes}
    (firstStorable : first.IsStorable) (secondStorable : second.IsStorable)
    (same : record first ++ after = record second ++ rest) : first = second ∧ after = rest := by
  have read := readCommand?_record firstStorable after
  rw [same, readCommand?_record secondStorable rest] at read
  cases read
  exact ⟨rfl, rfl⟩

theorem record_ne_nil {command : Command} (storable : command.IsStorable) (rest : Bytes) :
    record command ++ rest ≠ [] := by
  intro empty
  have read := readCommand?_record storable rest
  rw [empty] at read
  cases read

/-- Records that others begin with are the first of them. -/
theorem prefix_of_flatMap_record {front commands : List Command}
    (frontStorable : ∀ command ∈ front, command.IsStorable)
    (storable : ∀ command ∈ commands, command.IsStorable)
    (begins : front.flatMap record <+: commands.flatMap record) : front <+: commands := by
  induction front generalizing commands with
  | nil => exact List.nil_prefix
  | cons first front ih =>
    rw [List.forall_mem_cons] at frontStorable
    obtain ⟨after, whole⟩ := begins
    rw [List.flatMap_cons, List.append_assoc] at whole
    cases commands with
    | nil => exact absurd whole (record_ne_nil frontStorable.1 _)
    | cons command commands =>
      rw [List.forall_mem_cons] at storable
      rw [List.flatMap_cons] at whole
      obtain ⟨rfl, rest⟩ := record_append_inj frontStorable.1 storable.1 whole
      have others := ih frontStorable.2 storable.2 ⟨after, rest⟩
      exact (List.prefix_cons_inj first).mpr others

/-- What is read of records that break off before their end are the first of their commands, and not
all of them. -/
theorem exists_take_of_readCommands? {bytes : Bytes} {commands read : List Command}
    (storable : ∀ command ∈ commands, command.IsStorable)
    (begins : bytes <+: commands.flatMap record) (short : bytes ≠ commands.flatMap record)
    (given : readCommands? bytes = some read) :
    ∃ k < commands.length, read = commands.take k ∧ bytes = (commands.take k).flatMap record := by
  obtain ⟨readStorable, rfl⟩ := readCommands?_eq_some_iff.mp given
  have front := prefix_of_flatMap_record readStorable storable begins
  have taken : read = commands.take read.length := List.prefix_iff_eq_take.mp front
  refine ⟨read.length, Nat.lt_of_le_of_ne front.length_le ?_, taken, by rw [← taken]⟩
  intro whole
  rw [front.eq_of_length whole] at short
  exact short rfl

/-- What stands before the records of a script. -/
def preamble (config : Config) (stamp : Bytes) (count : Nat) : Bytes :=
  config.magic ++ stamp ++ countField count

/-- Where the records of the first `k` commands end in a script. -/
def boundary (config : Config) (stamp : Bytes) (commands : List Command) (k : Nat) : Nat :=
  (preamble config stamp commands.length).length + ((commands.take k).flatMap record).length

variable {config : Config} {stamp : Bytes} {commands : List Command}

theorem decodeStamped?_preamble (wellFormed : config.WellFormed)
    (stampBytes : config.stampBytes = .ok stamp) (count : Nat) (records : Bytes) :
    decodeStamped? config.stamp (preamble config stamp count ++ records) =
      (readCommands? records).map fun commands =>
        ⟨config.magic, stamp, countField count, commands⟩ := by
  rw [decodeStamped?, show config.stamp.encodeAscii = .ok stamp from stampBytes, preamble,
    List.append_assoc]
  exact decode?_eq_map wellFormed.length_magic (length_countField _) records

/-- Bytes of the records that a cut leaves are those of the first commands exactly if the cut is
where these end. -/
theorem take_records_eq_iff {left k : Nat} (short : left ≤ (commands.flatMap record).length) :
    (commands.flatMap record).take left = (commands.take k).flatMap record ↔
      left = ((commands.take k).flatMap record).length := by
  have divided : commands.flatMap record =
      (commands.take k).flatMap record ++ (commands.drop k).flatMap record := by
    rw [← List.flatMap_append, List.take_append_drop]
  constructor
  · intro same
    rw [← same, List.length_take_of_le short]
  · rintro rfl
    rw [divided, List.take_left]

/-- What is read of a script that is cut off behind its preamble. -/
theorem decodeStamped?_take_eq_some_iff {cut : Nat} (wellFormed : config.WellFormed)
    (stampBytes : config.stampBytes = .ok stamp)
    (storable : ∀ command ∈ commands, command.IsStorable)
    (behind : (preamble config stamp commands.length).length ≤ cut)
    (short : cut < (preamble config stamp commands.length ++ commands.flatMap record).length)
    (parts : Parts) :
    decodeStamped? config.stamp
        ((preamble config stamp commands.length ++ commands.flatMap record).take cut) = some parts ↔
      ∃ k < commands.length, cut = boundary config stamp commands k ∧
        parts = ⟨config.magic, stamp, countField commands.length, commands.take k⟩ := by
  obtain ⟨left, rfl⟩ := Nat.exists_eq_add_of_le behind
  rw [List.length_append, Nat.add_lt_add_iff_left] at short
  have taken (k : Nat) := take_records_eq_iff (k := k) (Nat.le_of_lt short)
  have cutAt (k : Nat) :
      (preamble config stamp commands.length).length + left = boundary config stamp commands k ↔
        left = ((commands.take k).flatMap record).length := by
    rw [boundary, Nat.add_left_cancel_iff]
  rw [List.take_length_add_append, decodeStamped?_preamble wellFormed stampBytes,
    Option.map_eq_some_iff]
  simp only [cutAt, ← taken]
  constructor
  · rintro ⟨read, given, rfl⟩
    have broken : (commands.flatMap record).take left ≠ commands.flatMap record := by
      intro whole
      have lengths := congrArg List.length whole
      rw [List.length_take_of_le (Nat.le_of_lt short)] at lengths
      omega
    obtain ⟨k, fewer, rfl, bytes⟩ :=
      exists_take_of_readCommands? storable (List.take_prefix _ _) broken given
    exact ⟨k, fewer, bytes, rfl⟩
  · rintro ⟨k, fewer, bytes, rfl⟩
    have front : ∀ command ∈ commands.take k, command.IsStorable := fun command early =>
      storable command (List.mem_of_mem_take early)
    exact ⟨commands.take k, by rw [bytes, readCommands?_flatMap_record front], rfl⟩

/-- A script that is cut off behind its count field is read exactly if the cut is where a record
ends or the first one begins. What is read are the commands before the cut, which are not all of
them. -/
theorem decodeStamped?_take {script : Bytes} (encoded : encode commands config = .ok script) :
    ∃ stamp, config.stampBytes = .ok stamp ∧
      script = preamble config stamp commands.length ++ commands.flatMap record ∧
      ∀ cut, (preamble config stamp commands.length).length ≤ cut → cut < script.length →
        ((∃ parts, decodeStamped? config.stamp (script.take cut) = some parts) ↔
          ∃ k < commands.length, cut = boundary config stamp commands k) ∧
        ∀ parts, decodeStamped? config.stamp (script.take cut) = some parts →
          (∃ k < commands.length, cut = boundary config stamp commands k ∧
            parts = ⟨config.magic, stamp, countField commands.length, commands.take k⟩) ∧
          ∀ command ∈ parts.commands, command ∈ commands := by
  obtain ⟨wellFormed, storable⟩ := exists_encode_iff.mp ⟨script, encoded⟩
  have stampBytes := wellFormed.stampBytes_eq
  have whole := encode_eq_ok wellFormed stampBytes storable
  rw [encoded, ← List.append_assoc] at whole
  obtain rfl := Except.ok.inj whole
  refine ⟨_, stampBytes, rfl, ?_⟩
  intro cut behind short
  have read := decodeStamped?_take_eq_some_iff wellFormed stampBytes storable behind short
  constructor
  · constructor
    · rintro ⟨parts, given⟩
      obtain ⟨k, fewer, cutAt, -⟩ := (read parts).mp given
      exact ⟨k, fewer, cutAt⟩
    · rintro ⟨k, fewer, cutAt⟩
      exact ⟨_, (read _).mpr ⟨k, fewer, cutAt, rfl⟩⟩
  · intro parts given
    have ends := (read parts).mp given
    refine ⟨ends, ?_⟩
    obtain ⟨k, -, -, rfl⟩ := ends
    exact fun command early => List.mem_of_mem_take early

/-- The cuts are within a sequence of four bytes and between the two records. -/
theorem decodeStamped?_take_twoRecords :
    let first : Command := ⟨256 - 2 ^ 63, "hud", "", "😀", "", "Ä"⟩
    let second : Command := ⟨1, "hud", "", "", "show", ""⟩
    ∃ script, encode [first, second] { stamp := "0.1" } = .ok script ∧
      decodeStamped? "0.1" (script.take 26) = none ∧
      (decodeStamped? "0.1" (script.take 33)).map Parts.commands = some [first] := by
  intro first second
  have wellFormed : Config.WellFormed { stamp := "0.1" } := ⟨rfl, by decide, by decide, by decide⟩
  have storable : ∀ command ∈ [first, second], command.IsStorable := by
    have timers : ∀ command ∈ [first, second],
        Word.least ≤ command.timer ∧ command.timer ≤ Word.greatest := by decide
    have texts : ∀ command ∈ [first, second], ∀ t ∈ command.texts,
        t.hasNull = false ∧ t.hasSurrogate = false := by decide
    intro command listed
    obtain ⟨low, high⟩ := timers command listed
    refine ⟨low, high, fun t inside => ?_⟩
    obtain ⟨noNull, noSurrogate⟩ := texts command listed t inside
    exact ⟨noNull, noSurrogate⟩
  obtain ⟨script, encoded⟩ := exists_encode_iff.mpr ⟨wellFormed, storable⟩
  obtain ⟨stamp, stampBytes, rfl, cuts⟩ := decodeStamped?_take encoded
  obtain rfl : [0x30, 0x2E, 0x31] = stamp := Except.ok.inj stampBytes
  obtain ⟨⟨inside, -⟩, -⟩ := cuts 26 (by decide) (by decide)
  obtain ⟨⟨-, between⟩, front⟩ := cuts 33 (by decide) (by decide)
  have boundary_one : boundary { stamp := "0.1" } [0x30, 0x2E, 0x31] [first, second] 1 = 33 := by
    decide
  refine ⟨_, encoded, ?_, ?_⟩
  · rw [Option.eq_none_iff_forall_ne_some]
    intro parts read
    obtain ⟨k, fewer, cut⟩ := inside ⟨parts, read⟩
    revert k
    decide
  · obtain ⟨parts, read⟩ := between ⟨1, by decide, boundary_one.symm⟩
    obtain ⟨⟨k, fewer, cut, rfl⟩, -⟩ := front parts read
    obtain rfl : k = 1 := by
      clear read
      revert k
      decide
    exact congrArg (Option.map Parts.commands) read

end EventScript.Script
