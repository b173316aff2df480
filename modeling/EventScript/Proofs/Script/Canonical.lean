import EventScript.Proofs.Script.RoundTrip
import EventScript.Proofs.Text.Strict

/-!
# Scripts are canonical

What a reader takes from the front of a byte list is what the writer of the same part appends. A
script that can be read at all is therefore the only one of its commands.
-/

namespace EventScript.Script

variable {bytes rest : Bytes}

theorem readTimer?_sound {n : Int} (read : readTimer? bytes = some (n, rest)) :
    (Word.least ≤ n ∧ n ≤ Word.greatest) ∧ bytes = Word.encode n ++ rest := by
  unfold readTimer? at read
  split at read
  · next enough =>
    obtain ⟨rfl, rfl⟩ := Prod.mk.inj (Option.some.inj read)
    have width : (bytes.take 8).length = 8 := List.length_take_of_le enough
    exact ⟨Word.wrap_mem _, by rw [Word.encode_decode width, List.take_append_drop]⟩
  · cases read

theorem hasNull_of_zero_notMem {t : Text} (nonzero : 0 ∉ t.flatMap Utf8.encodeOne) :
    t.hasNull = false := by
  rw [Text.hasNull_eq_false_iff]
  intro c inside null
  apply nonzero
  have written : Utf8.encodeOne c = [0] := by
    rw [Utf8.encodeOne, null]
    rfl
  exact List.mem_flatMap.mpr ⟨c, inside, written ▸ List.mem_cons_self⟩

theorem readText?_sound {t : Text} (read : readText? bytes = some (t, rest)) :
    t.IsStorable ∧ bytes = textRecord t ++ rest := by
  unfold readText? at read
  split at read
  · cases read
  · next b after found =>
    split at read
    · next u decoded =>
      cases read
      obtain ⟨noSurrogate, written⟩ := Utf8.decode_eq_ok_iff.mp decoded
      have ends : b = 0 := by
        have stopped := List.head?_dropWhile_not (fun b : UInt8 => decide (b ≠ 0)) bytes
        rw [found] at stopped
        simpa using stopped
      have nonzero : 0 ∉ t.flatMap Utf8.encodeOne := by
        rw [← written]
        intro inside
        have kept := List.all_eq_true.mp List.all_takeWhile 0 inside
        exact absurd kept (by decide)
      refine ⟨⟨hasNull_of_zero_notMem nonzero, noSurrogate⟩, ?_⟩
      calc bytes
          = bytes.takeWhile (· ≠ 0) ++ bytes.dropWhile (· ≠ 0) :=
            List.takeWhile_append_dropWhile.symm
        _ = t.flatMap Utf8.encodeOne ++ (0 :: rest) := by rw [written, found, ends]
        _ = textRecord t ++ rest := by rw [textRecord, List.append_assoc]; rfl
    · cases read

theorem readCommand?_sound {command : Command} (read : readCommand? bytes = some (command, rest)) :
    command.IsStorable ∧ bytes = record command ++ rest := by
  unfold readCommand? at read
  split at read
  · cases read
  · next timer after timerRead =>
    simp only [Option.bind_eq_bind, Option.bind_eq_some_iff, Prod.exists, Option.pure_def,
      Option.some.injEq, Prod.mk.injEq] at read
    obtain ⟨system, _, first, recipient, _, second, sender, _, third, verb, _, fourth, argument, _,
      fifth, rfl, rfl⟩ := read
    obtain ⟨⟨low, high⟩, rfl⟩ := readTimer?_sound timerRead
    obtain ⟨firstStorable, rfl⟩ := readText?_sound first
    obtain ⟨secondStorable, rfl⟩ := readText?_sound second
    obtain ⟨thirdStorable, rfl⟩ := readText?_sound third
    obtain ⟨fourthStorable, rfl⟩ := readText?_sound fourth
    obtain ⟨fifthStorable, rfl⟩ := readText?_sound fifth
    refine ⟨⟨low, high, ?_⟩, ?_⟩
    · simp only [Command.texts, List.forall_mem_cons]
      exact ⟨firstStorable, secondStorable, thirdStorable, fourthStorable, fifthStorable,
        List.forall_mem_nil _⟩
    · simp only [record, Command.texts, List.flatMap_cons, List.flatMap_nil, List.append_assoc,
        List.nil_append]

/-- Records are read from their own bytes alone: nothing is passed over between or after them. -/
theorem readCommands?_sound {commands : List Command} (read : readCommands? bytes = some commands) :
    (∀ command ∈ commands, command.IsStorable) ∧ bytes = commands.flatMap record := by
  induction bytes using readCommands?.induct generalizing commands with
  | case1 =>
    rw [readCommands?, if_pos rfl] at read
    cases read
    exact ⟨List.forall_mem_nil _, rfl⟩
  | case2 bytes filled unread =>
    rw [readCommands?, if_neg filled] at read
    split at read
    · cases read
    · next command rest first =>
      rw [unread] at first
      cases first
  | case3 bytes filled command rest first ih =>
    rw [readCommands?_of_readCommand? first] at read
    obtain ⟨others, othersRead, rfl⟩ := Option.map_eq_some_iff.mp read
    obtain ⟨storable, rfl⟩ := readCommand?_sound first
    obtain ⟨othersStorable, rfl⟩ := ih othersRead
    exact ⟨List.forall_mem_cons.mpr ⟨storable, othersStorable⟩, by rw [List.flatMap_cons]⟩

/-- The bytes begin as a script of these settings does, they are read as these commands, and the
count field is the one that such a list of commands has. -/
structure Carries (config : Config) (script : Bytes) (commands : List Command) : Prop where
  begins : ∃ stamp, config.stampBytes = .ok stamp ∧ config.magic ++ stamp <+: script
  reads : ∃ parts, decodeStamped? config.stamp script = some parts ∧ parts.commands = commands ∧
    parts.countField = [UInt8.ofNat (commands.length % 256), 0, 0, 0]

theorem Carries.encode_eq {config : Config} {script : Bytes} {commands : List Command}
    (wellFormed : config.WellFormed) (carries : Carries config script commands) :
    encode commands config = .ok script := by
  obtain ⟨⟨stamp, stampBytes, after, rfl⟩, parts, read, rfl, counted⟩ := carries
  have afterMagic : (config.magic ++ stamp ++ after).drop magicSize = stamp ++ after := by
    rw [List.append_assoc, List.drop_left' wellFormed.length_magic]
  rw [decodeStamped?, show config.stamp.encodeAscii = .ok stamp from stampBytes] at read
  simp only [decode?, afterMagic, List.drop_left] at read
  obtain ⟨commands, records, rfl⟩ := Option.map_eq_some_iff.mp read
  obtain ⟨storable, written⟩ := readCommands?_sound records
  have field : after.take countFieldSize = countField commands.length :=
    counted.trans (countField_natCast _).symm
  rw [encode_eq_ok wellFormed stampBytes storable, ← field, ← written, List.take_append_drop]

/-- A script that can be read is what its commands are encoded as, so that no other script carries
the same commands. -/
theorem encode_of_carries {config : Config} {script : Bytes} {commands : List Command}
    (wellFormed : config.WellFormed) (carries : Carries config script commands) :
    encode commands config = .ok script ∧
      ∀ other, Carries config other commands → other = script := by
  have encoded := carries.encode_eq wellFormed
  refine ⟨encoded, ?_⟩
  intro other otherCarries
  exact Except.ok.inj ((otherCarries.encode_eq wellFormed).symm.trans encoded)

/-- A record whose timer holds null bytes, and which has texts without any byte. -/
def sampleRecord : Bytes :=
  [0, 1, 0, 0, 0, 0, 0, 0x80, 0x68, 0x75, 0x64, 0, 0, 0xF0, 0x9F, 0x98, 0x80, 0, 0, 0xC3, 0x84, 0]

theorem encode_of_carries_sampleRecord :
    let command : Command := ⟨256 - 2 ^ 63, "hud", "", "😀", "", "Ä"⟩
    let script := magic ++ [0x30, 0x2E, 0x31] ++ ([1, 0, 0, 0] ++ sampleRecord)
    Carries { stamp := "0.1" } script [command] ∧
      encode [command] { stamp := "0.1" } = .ok script := by
  intro command script
  have wellFormed : Config.WellFormed { stamp := "0.1" } := ⟨rfl, by decide, by decide, by decide⟩
  have first : readCommand? sampleRecord = some (command, []) := by cbv
  have records : readCommands? sampleRecord = some [command] := by
    rw [readCommands?_of_readCommand? first, readCommands?, if_pos rfl]
    rfl
  have read : decode? 3 script = some ⟨magic, [0x30, 0x2E, 0x31], [1, 0, 0, 0], [command]⟩ :=
    decode?_append rfl rfl records
  have carries : Carries { stamp := "0.1" } script [command] :=
    ⟨⟨_, rfl, List.prefix_append _ _⟩, _, read, rfl, rfl⟩
  exact ⟨carries, (encode_of_carries wellFormed carries).1⟩

end EventScript.Script
