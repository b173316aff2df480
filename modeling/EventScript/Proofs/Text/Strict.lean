import EventScript.Proofs.Text.Utf8

/-!
# UTF-8 is strict

What is decoded holds no surrogate and is written with the very bytes it was decoded from: a longer
spelling of a code point, a lone continuation byte or half of a pair is never taken for a text.
-/

namespace EventScript

namespace Utf8

theorem ofNat_eq_of_toNat {b : UInt8} {n : Nat} (same : n = b.toNat) : UInt8.ofNat n = b := by
  rw [same, UInt8.ofNat_toNat]

theorem isContinuation_iff {b : UInt8} :
    isContinuation b = true ↔ 0x80 ≤ b.toNat ∧ b.toNat ≤ 0xBF := by
  simp [isContinuation]

theorem bounds_of_maySecond {first second : UInt8} (allowed : maySecond first second = true) :
    (0x80 ≤ second.toNat ∧ second.toNat ≤ 0xBF) ∧
      (first.toNat = 0xE0 → 0xA0 ≤ second.toNat) ∧ (first.toNat = 0xED → second.toNat < 0xA0) ∧
      (first.toNat = 0xF0 → 0x90 ≤ second.toNat) ∧ (first.toNat = 0xF4 → second.toNat < 0x90) := by
  simp only [maySecond, Bool.and_eq_true, isContinuation_iff] at allowed
  obtain ⟨bounds, further⟩ := allowed
  refine ⟨bounds, ?_⟩
  repeat' split at further
  all_goals simp only [decide_eq_true_eq] at further
  all_goals omega

theorem val_assemble {lead : Nat} {continuation : Bytes}
    (small : continuation.foldl (fun n b => n * 64 + (b.toNat - 0x80)) lead < 0x110000) :
    (assemble lead continuation).val =
      continuation.foldl (fun n b => n * 64 + (b.toNat - 0x80)) lead :=
  CodePoint.val_ofNat small

theorem decodeTwo_sound {first : UInt8} {bytes rest : Bytes} {c : CodePoint}
    (low : 0xC2 ≤ first.toNat) (high : first.toNat < 0xE0)
    (read : decodeTwo first bytes = .char c rest) :
    c.isSurrogate = false ∧ first :: bytes = encodeOne c ++ rest := by
  cases bytes with
  | nil => cases read
  | cons second bytes =>
    simp only [decodeTwo] at read
    split at read
    · next continues =>
      obtain ⟨rfl, rfl⟩ := Sequence.char.inj read
      rw [isContinuation_iff] at continues
      have whole : (assemble (first.toNat - 0xC0) [second]).val =
          (first.toNat - 0xC0) * 64 + (second.toNat - 0x80) := by
        rw [val_assemble]
        · rfl
        · simp only [List.foldl_cons, List.foldl_nil]
          omega
      constructor
      · simp only [CodePoint.isSurrogate, Bool.and_eq_false_iff, decide_eq_false_iff_not]
        omega
      · rw [encodeOne, whole, if_neg (by omega), if_pos (by omega),
          ofNat_eq_of_toNat (b := first) (by omega), ofNat_eq_of_toNat (b := second) (by omega)]
        rfl
    · cases read

theorem decodeThree_sound {first : UInt8} {bytes rest : Bytes} {c : CodePoint}
    (low : 0xE0 ≤ first.toNat) (high : first.toNat < 0xF0)
    (read : decodeThree first bytes = .char c rest) :
    c.isSurrogate = false ∧ first :: bytes = encodeOne c ++ rest := by
  rcases bytes with - | ⟨second, - | ⟨third, bytes⟩⟩
  · cases read
  · simp only [decodeThree] at read
    split at read <;> cases read
  · simp only [decodeThree] at read
    split at read
    · cases read
    · next allowed =>
      split at read
      · next continues =>
        obtain ⟨rfl, rfl⟩ := Sequence.char.inj read
        rw [isContinuation_iff] at continues
        obtain ⟨bounds, shortest, noSurrogate, -⟩ := bounds_of_maySecond (by simpa using allowed)
        have whole : (assemble (first.toNat - 0xE0) [second, third]).val =
            ((first.toNat - 0xE0) * 64 + (second.toNat - 0x80)) * 64 + (third.toNat - 0x80) := by
          rw [val_assemble]
          · rfl
          · simp only [List.foldl_cons, List.foldl_nil]
            omega
        constructor
        · simp only [CodePoint.isSurrogate, Bool.and_eq_false_iff, decide_eq_false_iff_not]
          omega
        · rw [encodeOne, whole, if_neg (by omega), if_neg (by omega), if_pos (by omega),
            ofNat_eq_of_toNat (b := first) (by omega),
            ofNat_eq_of_toNat (b := second) (by omega), ofNat_eq_of_toNat (b := third) (by omega)]
          rfl
      · cases read

theorem decodeFour_sound {first : UInt8} {bytes rest : Bytes} {c : CodePoint}
    (low : 0xF0 ≤ first.toNat) (high : first.toNat < 0xF5)
    (read : decodeFour first bytes = .char c rest) :
    c.isSurrogate = false ∧ first :: bytes = encodeOne c ++ rest := by
  rcases bytes with - | ⟨second, - | ⟨third, - | ⟨fourth, bytes⟩⟩⟩
  · cases read
  · simp only [decodeFour] at read
    split at read <;> cases read
  · simp only [decodeFour] at read
    repeat' split at read
    all_goals cases read
  · simp only [decodeFour] at read
    split at read
    · cases read
    · next allowed =>
      split at read
      · cases read
      · next continues =>
        split at read
        · next ends =>
          obtain ⟨rfl, rfl⟩ := Sequence.char.inj read
          simp only [Bool.not_eq_true', Bool.not_eq_false, isContinuation_iff] at continues
          rw [isContinuation_iff] at ends
          obtain ⟨bounds, -, -, shortest, last⟩ := bounds_of_maySecond (by simpa using allowed)
          have whole : (assemble (first.toNat - 0xF0) [second, third, fourth]).val =
              (((first.toNat - 0xF0) * 64 + (second.toNat - 0x80)) * 64 + (third.toNat - 0x80)) * 64
                + (fourth.toNat - 0x80) := by
            rw [val_assemble]
            · rfl
            · simp only [List.foldl_cons, List.foldl_nil]
              omega
          constructor
          · simp only [CodePoint.isSurrogate, Bool.and_eq_false_iff, decide_eq_false_iff_not]
            omega
          · rw [encodeOne, whole, if_neg (by omega), if_neg (by omega), if_neg (by omega),
              ofNat_eq_of_toNat (b := first) (by omega),
              ofNat_eq_of_toNat (b := second) (by omega), ofNat_eq_of_toNat (b := third) (by omega),
              ofNat_eq_of_toNat (b := fourth) (by omega)]
            rfl
        · cases read

theorem decodeOne_sound {first : UInt8} {bytes rest : Bytes} {c : CodePoint}
    (read : decodeOne first bytes = .char c rest) :
    c.isSurrogate = false ∧ first :: bytes = encodeOne c ++ rest := by
  unfold decodeOne at read
  split at read
  · next small =>
    obtain ⟨rfl, rfl⟩ := Sequence.char.inj read
    have whole : (CodePoint.ofNat first.toNat).val = first.toNat := CodePoint.val_ofNat (by omega)
    constructor
    · simp only [CodePoint.isSurrogate, Bool.and_eq_false_iff, decide_eq_false_iff_not]
      omega
    · rw [encodeOne, whole, if_pos small, UInt8.ofNat_toNat]
      rfl
  · split at read
    · cases read
    · split at read
      · exact decodeTwo_sound (by omega) (by omega) read
      · split at read
        · exact decodeThree_sound (by omega) (by omega) read
        · split at read
          · exact decodeFour_sound (by omega) (by omega) read
          · cases read

theorem decodeFrom_sound {done t : Text} {bytes : Bytes} (read : decodeFrom done bytes = .ok t) :
    ∃ u, t = done.reverse ++ u ∧ (∀ c ∈ u, c.isSurrogate = false) ∧
      bytes = u.flatMap encodeOne := by
  induction done, bytes using decodeFrom.induct with
  | case1 done =>
    rw [decodeFrom] at read
    cases read
    exact ⟨[], (List.append_nil _).symm, List.forall_mem_nil _, rfl⟩
  | case2 done first bytes c rest sequence ih =>
    rw [decodeFrom_cons_of_char sequence] at read
    obtain ⟨noSurrogate, written⟩ := decodeOne_sound sequence
    obtain ⟨u, rfl, others, rfl⟩ := ih read
    refine ⟨c :: u, by simp, ?_, by rw [written, List.flatMap_cons]⟩
    exact List.forall_mem_cons.mpr ⟨noSurrogate, others⟩
  | case3 done first bytes flaw length sequence =>
    rw [decodeFrom] at read
    split at read
    · next same =>
      rw [sequence] at same
      cases same
    · cases read

/-- A text is decoded from its own bytes and from no others. -/
theorem decode_eq_ok_iff {bytes : Bytes} {t : Text} :
    decode bytes = .ok t ↔ t.hasSurrogate = false ∧ bytes = t.flatMap encodeOne := by
  constructor
  · intro read
    unfold decode at read
    split at read
    · next u found =>
      cases read
      obtain ⟨u, rfl, noSurrogate, written⟩ := decodeFrom_sound found
      exact ⟨Text.hasSurrogate_eq_false_iff.mpr noSurrogate, written⟩
    · cases read
  · rintro ⟨noSurrogate, rfl⟩
    exact decode_flatMap_encodeOne noSurrogate

end Utf8

end EventScript
