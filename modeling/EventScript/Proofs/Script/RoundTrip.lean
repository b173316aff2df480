import EventScript.Compile
import EventScript.Proofs.Job
import EventScript.Proofs.Script.Contribution
import EventScript.Script.Decoding

/-!
# Scripts are read back

Records follow one another without lengths or marks between them. Each reader stops exactly where
its writer did, whatever follows, so that the boundaries are found from the bytes alone.
-/

namespace EventScript.Script

theorem readTimer?_encode {n : Int} (low : Word.least ≤ n) (high : n ≤ Word.greatest)
    (rest : Bytes) : readTimer? (Word.encode n ++ rest) = some (n, rest) := by
  have enough : 8 ≤ (Word.encode n ++ rest).length := by
    rw [List.length_append, Word.length_encode]
    omega
  unfold readTimer?
  rw [if_pos enough, List.take_left' (Word.length_encode n), List.drop_left' (Word.length_encode n),
    Word.decode_encode_of_mem low high]

theorem readText?_textRecord {t : Text} (storable : t.IsStorable) (rest : Bytes) :
    readText? (textRecord t ++ rest) = some (t, rest) := by
  have nonzero : ∀ b ∈ t.flatMap Utf8.encodeOne, decide (b ≠ 0) = true := by
    intro b membership
    apply decide_eq_true
    intro zero
    exact Utf8.zero_notMem_flatMap_encodeOne storable.hasNull_eq (zero ▸ membership)
  have after : (textRecord t ++ rest).dropWhile (· ≠ 0) = 0 :: rest := by
    rw [textRecord, List.append_assoc, List.dropWhile_append_of_pos nonzero]
    rfl
  have before : (textRecord t ++ rest).takeWhile (· ≠ 0) = t.flatMap Utf8.encodeOne := by
    rw [textRecord, List.append_assoc, List.takeWhile_append_of_pos nonzero]
    exact List.append_nil _
  unfold readText?
  rw [after, before, Utf8.decode_flatMap_encodeOne storable.hasSurrogate_eq]

theorem readCommand?_record {command : Command} (storable : command.IsStorable) (rest : Bytes) :
    readCommand? (record command ++ rest) = some (command, rest) := by
  have read (t : Text) (membership : t ∈ command.texts) (rest : Bytes) :
      readText? (textRecord t ++ rest) = some (t, rest) :=
    readText?_textRecord (storable.texts t membership) rest
  simp only [Command.texts, List.mem_cons, List.not_mem_nil, or_false, forall_eq_or_imp,
    forall_eq] at read
  obtain ⟨system, recipient, sender, verb, argument⟩ := read
  unfold readCommand?
  rw [record, List.append_assoc, readTimer?_encode storable.least_le storable.le_greatest]
  simp only [Command.texts, List.flatMap_cons, List.flatMap_nil, List.append_assoc, system,
    recipient, sender, verb, argument, Option.bind_eq_bind, Option.bind_some, List.nil_append]
  rfl

theorem readCommands?_of_readCommand? {bytes rest : Bytes} {command : Command}
    (read : readCommand? bytes = some (command, rest)) :
    readCommands? bytes = (readCommands? rest).map (command :: ·) := by
  have nonempty : bytes ≠ [] := by
    rintro rfl
    cases read
  rw [readCommands?, if_neg nonempty]
  split
  · next same =>
    rw [read] at same
    cases same
  · next other after same =>
    rw [read] at same
    cases same
    rfl

theorem readCommands?_flatMap_record {commands : List Command}
    (storable : ∀ command ∈ commands, command.IsStorable) :
    readCommands? (commands.flatMap record) = some commands := by
  induction commands with
  | nil =>
    rw [readCommands?]
    exact if_pos rfl
  | cons command rest ih =>
    have first := readCommand?_record (storable command List.mem_cons_self) (rest.flatMap record)
    have others := ih fun other membership =>
      storable other (List.mem_cons_of_mem command membership)
    rw [List.flatMap_cons, readCommands?_of_readCommand? first, others]
    rfl

theorem length_countField (count : Int) : (countField count).length = countFieldSize := by
  simp [countField, countFieldSize]

theorem countField_natCast (count : Nat) :
    countField count = [UInt8.ofNat (count % 256), 0, 0, 0] := by
  have low : ((count : Int) % 256).toNat = count % 256 := by omega
  rw [countField, low]
  rfl

/-- The cuts of a script fall between its header, its stamp, its count field and its records,
whether these can be read or not. -/
theorem decode?_eq_map {magic stamp count : Bytes} (magicLength : magic.length = magicSize)
    (countLength : count.length = countFieldSize) (records : Bytes) :
    decode? stamp.length (magic ++ stamp ++ (count ++ records)) =
      (readCommands? records).map fun commands => ⟨magic, stamp, count, commands⟩ := by
  have afterMagic : (magic ++ stamp ++ (count ++ records)).drop magicSize =
      stamp ++ (count ++ records) := by
    rw [List.append_assoc, List.drop_left' magicLength]
  have afterStamp : (stamp ++ (count ++ records)).drop stamp.length = count ++ records :=
    List.drop_left' rfl
  have afterCount : (count ++ records).drop countFieldSize = records := List.drop_left' countLength
  have takenMagic : (magic ++ stamp ++ (count ++ records)).take magicSize = magic := by
    rw [List.append_assoc, List.take_left' magicLength]
  unfold decode?
  simp only [afterMagic, afterStamp, afterCount, takenMagic]
  rw [List.take_left' rfl, List.take_left' countLength]

theorem decode?_append {magic stamp count records : Bytes} {commands : List Command}
    (magicLength : magic.length = magicSize) (countLength : count.length = countFieldSize)
    (read : readCommands? records = some commands) :
    decode? stamp.length (magic ++ stamp ++ (count ++ records)) =
      some ⟨magic, stamp, count, commands⟩ := by
  rw [decode?_eq_map magicLength countLength, read, Option.map_some]

theorem decode?_script {config : Config} {commands : List Command} {stamp : Bytes}
    (wellFormed : config.WellFormed) (storable : ∀ command ∈ commands, command.IsStorable) :
    decode? stamp.length
        (config.magic ++ stamp ++ (countField commands.length ++ commands.flatMap record)) =
      some ⟨config.magic, stamp, [UInt8.ofNat (commands.length % 256), 0, 0, 0], commands⟩ := by
  rw [decode?_append wellFormed.length_magic (length_countField _)
    (readCommands?_flatMap_record storable), countField_natCast]

/-- The encoder makes a script from which its commands are read. -/
theorem exists_encode_eq_ok {config : Config} {commands : List Command}
    (wellFormed : config.WellFormed) (storable : ∀ command ∈ commands, command.IsStorable) :
    ∃ script stamp,
      encode commands config = .ok script ∧
      config.stampBytes = .ok stamp ∧
      decodeStamped? config.stamp script =
        some ⟨config.magic, stamp, [UInt8.ofNat (commands.length % 256), 0, 0, 0], commands⟩ := by
  have stampBytes := wellFormed.stampBytes_eq
  refine ⟨_, _, encode_eq_ok wellFormed stampBytes storable, stampBytes, ?_⟩
  unfold decodeStamped?
  rw [show config.stamp.encodeAscii = config.stampBytes from rfl, stampBytes]
  exact decode?_script wellFormed storable

/-- Warnings of an encoder are those of the count field, whether the script is finished or not. -/
theorem warning_mem_events_encode_iff {commands : List Command} {config : Config}
    {tree : FileTree} {origin : Origin} {message : Text} :
    Event.log .warning origin message ∈ (Job.encode commands config tree).events ↔
      origin = .encoder ∧ countWarning? commands = some message := by
  have debugOnly (result : Except Failure Bytes) :
      Event.log .warning origin message ∉
        ((do
          let script ← Job.ofExcept result
          Job.log .debug .encoder ["Encoded ", Numeral.digits commands.length, " commands into ",
            Numeral.digits script.length, " bytes"]
          return script : Job Bytes) tree).events := by
    cases result <;> simp
  unfold Job.encode
  cases countWarning? commands with
  | none => simpa using debugOnly (encode commands config)
  | some warning =>
    have pieces : Text.concat [warning] = warning := by simp [Text.concat]
    simp only [Job.log_bind, List.mem_cons, debugOnly, or_false, Event.log.injEq, true_and, pieces,
      Option.some.injEq, eq_comm]

theorem exists_countWarning?_iff {commands : List Command} :
    (∃ message, countWarning? commands = some message) ↔ 255 < commands.length := by
  unfold countWarning? countLimit
  split
  · next many => exact ⟨fun _ => many, fun _ => ⟨_, rfl⟩⟩
  · next few => exact ⟨nofun, fun many => absurd many few⟩

theorem result_encode (commands : List Command) (config : Config) (tree : FileTree) :
    (Job.encode commands config tree).result = encode commands config := by
  unfold Job.encode
  cases countWarning? commands <;> cases encode commands config <;> rfl

/-- A script is read back as the commands it was made of, however many they are. Only those that
the count field cannot count are warned about. -/
theorem decodeStamped?_of_encode {config : Config} {commands : List Command}
    (wellFormed : config.WellFormed) (storable : ∀ command ∈ commands, command.IsStorable)
    (tree : FileTree) :
    ∃ script stamp,
      encode commands config = .ok script ∧
      config.stampBytes = .ok stamp ∧
      decodeStamped? config.stamp script =
        some ⟨config.magic, stamp, [UInt8.ofNat (commands.length % 256), 0, 0, 0], commands⟩ ∧
      (Job.encode commands config tree).result = .ok script ∧
      (∀ origin message,
        Event.log .warning origin message ∈ (Job.encode commands config tree).events →
          origin = .encoder ∧ countWarning? commands = some message) ∧
      ((∃ message,
        Event.log .warning .encoder message ∈ (Job.encode commands config tree).events) ↔
          255 < commands.length) := by
  obtain ⟨script, stamp, encoded, stampBytes, decoded⟩ := exists_encode_eq_ok wellFormed storable
  refine ⟨script, stamp, encoded, stampBytes, decoded, ?_, ?_, ?_⟩
  · rw [result_encode, encoded]
  · intro origin message logged
    exact warning_mem_events_encode_iff.mp logged
  · simp only [warning_mem_events_encode_iff, true_and]
    exact exists_countWarning?_iff

theorem decodeStamped?_of_encode_shout :
    ∃ script, encode [⟨-5, "hud", "", "😀", "shout", "Ä, ß"⟩] { stamp := "0.1.0" } = .ok script ∧
      (decodeStamped? "0.1.0" script).map Parts.commands =
        some [⟨-5, "hud", "", "😀", "shout", "Ä, ß"⟩] := by
  have wellFormed : Config.WellFormed { stamp := "0.1.0" } :=
    ⟨rfl, by decide, by decide, by decide⟩
  have texts : ∀ t ∈ Command.texts ⟨-5, "hud", "", "😀", "shout", "Ä, ß"⟩, t.IsStorable := by
    intro t membership
    constructor <;> revert t <;> decide
  have storable : ∀ command ∈ [(⟨-5, "hud", "", "😀", "shout", "Ä, ß"⟩ : Command)],
      command.IsStorable := by
    intro command membership
    rw [List.mem_singleton.mp membership]
    exact ⟨by decide, by decide, texts⟩
  obtain ⟨script, stamp, encoded, -, read, -⟩ :=
    decodeStamped?_of_encode wellFormed storable ⟨[], []⟩
  exact ⟨script, encoded, by rw [read]; rfl⟩

end EventScript.Script
