import EventScript.Text.Utf8

/-!
# The UTF-8 codec

Decoding undoes encoding for texts without surrogates, whatever bytes follow, and a text without a
null has no zero among its bytes.
-/

namespace EventScript

theorem Text.hasNull_eq_false_iff {t : Text} :
    t.hasNull = false ↔ ∀ c ∈ t, c.val ≠ 0 := by
  simp [Text.hasNull]

theorem Text.hasSurrogate_eq_false_iff {t : Text} :
    t.hasSurrogate = false ↔ ∀ c ∈ t, c.isSurrogate = false := by
  simp [Text.hasSurrogate]

theorem Text.isAscii_iff {t : Text} :
    t.isAscii = true ↔ ∀ c ∈ t, c.isAscii = true := by
  simp [Text.isAscii]

theorem Text.encodeAscii_eq_ok {t : Text} (ascii : t.isAscii = true) :
    t.encodeAscii = .ok (t.map fun c => UInt8.ofNat c.val) := by
  have carried : Unencodable.find? (! ·.isAscii) t = none := by
    rw [Unencodable.find?_eq_none_iff]
    intro c membership
    simp [Text.isAscii_iff.mp ascii c membership]
  simp [Text.encodeAscii, carried]

theorem Text.isAscii_of_encodeAscii {t : Text} {bytes : Bytes}
    (carried : t.encodeAscii = .ok bytes) : t.isAscii = true := by
  unfold encodeAscii at carried
  split at carried
  · cases carried
  · next clean =>
    rw [Unencodable.find?_eq_none_iff] at clean
    rw [isAscii_iff]
    intro c membership
    simpa using clean c membership

namespace Utf8

theorem toNat_continuation (n : Nat) :
    (UInt8.ofNat (0x80 + n % 64)).toNat = 0x80 + n % 64 := by
  apply UInt8.toNat_ofNat_of_lt
  have := Nat.mod_lt n (y := 64) (by decide)
  simp only [UInt8.size]
  omega

theorem isContinuation_continuation (n : Nat) :
    isContinuation (UInt8.ofNat (0x80 + n % 64)) = true := by
  have := Nat.mod_lt n (y := 64) (by decide)
  simp only [isContinuation, toNat_continuation, Bool.and_eq_true, decide_eq_true_eq]
  omega

theorem toNat_lead {lead : Nat} (bound : lead < 0x100) : (UInt8.ofNat lead).toNat = lead :=
  UInt8.toNat_ofNat_of_lt bound

theorem decodeOne_ascii {c : CodePoint} (small : c.val < 0x80) (rest : Bytes) :
    decodeOne (.ofNat c.val) rest = .char c rest := by
  have lead : (UInt8.ofNat c.val).toNat = c.val := toNat_lead (by omega)
  simp [decodeOne, lead, small]

theorem decodeOne_two {c : CodePoint} (low : 0x80 ≤ c.val) (high : c.val < 0x800) (rest : Bytes) :
    decodeOne (.ofNat (0xC0 + c.val / 64)) (.ofNat (0x80 + c.val % 64) :: rest) = .char c rest := by
  have lead : (UInt8.ofNat (0xC0 + c.val / 64)).toNat = 0xC0 + c.val / 64 := toNat_lead (by omega)
  have whole : assemble (0xC0 + c.val / 64 - 0xC0) [.ofNat (0x80 + c.val % 64)] = c := by
    simp only [assemble, List.foldl, toNat_continuation]
    rw [show (0xC0 + c.val / 64 - 0xC0) * 64 + (0x80 + c.val % 64 - 0x80) = c.val by omega]
    exact CodePoint.ofNat_val c
  unfold decodeOne
  rw [lead, if_neg (by omega), if_neg (by omega), if_pos (by omega)]
  simp only [decodeTwo, isContinuation_continuation, if_true, lead, whole]

theorem decodeOne_three {c : CodePoint} (low : 0x800 ≤ c.val) (high : c.val < 0x10000)
    (noSurrogate : c.isSurrogate = false) (rest : Bytes) :
    decodeOne (.ofNat (0xE0 + c.val / 4096))
      (.ofNat (0x80 + c.val / 64 % 64) :: .ofNat (0x80 + c.val % 64) :: rest) = .char c rest := by
  have lead : (UInt8.ofNat (0xE0 + c.val / 4096)).toNat = 0xE0 + c.val / 4096 :=
    toNat_lead (by omega)
  have outside : c.val < 0xD800 ∨ 0xDFFF < c.val := by
    simp only [CodePoint.isSurrogate, Bool.and_eq_false_iff, decide_eq_false_iff_not] at noSurrogate
    omega
  have second :
      maySecond (.ofNat (0xE0 + c.val / 4096)) (.ofNat (0x80 + c.val / 64 % 64)) = true := by
    simp only [maySecond, isContinuation_continuation, Bool.true_and, lead, toNat_continuation]
    split
    · simp only [decide_eq_true_eq]
      omega
    · split
      · simp only [decide_eq_true_eq]
        omega
      · rw [if_neg (by omega), if_neg (by omega)]
  have whole : assemble (0xE0 + c.val / 4096 - 0xE0)
      [.ofNat (0x80 + c.val / 64 % 64), .ofNat (0x80 + c.val % 64)] = c := by
    simp only [assemble, List.foldl, toNat_continuation]
    rw [show ((0xE0 + c.val / 4096 - 0xE0) * 64 + (0x80 + c.val / 64 % 64 - 0x80)) * 64
      + (0x80 + c.val % 64 - 0x80) = c.val by omega]
    exact CodePoint.ofNat_val c
  unfold decodeOne
  rw [lead, if_neg (by omega), if_neg (by omega), if_neg (by omega), if_pos (by omega)]
  simp only [decodeThree, second, isContinuation_continuation, lead, whole, Bool.not_true,
    Bool.false_eq_true, if_false, if_true]

theorem decodeOne_four {c : CodePoint} (low : 0x10000 ≤ c.val) (rest : Bytes) :
    decodeOne (.ofNat (0xF0 + c.val / 262144))
      (.ofNat (0x80 + c.val / 4096 % 64) :: .ofNat (0x80 + c.val / 64 % 64) ::
        .ofNat (0x80 + c.val % 64) :: rest) = .char c rest := by
  have high := c.val_lt
  have lead : (UInt8.ofNat (0xF0 + c.val / 262144)).toNat = 0xF0 + c.val / 262144 :=
    toNat_lead (by omega)
  have second :
      maySecond (.ofNat (0xF0 + c.val / 262144)) (.ofNat (0x80 + c.val / 4096 % 64)) = true := by
    simp only [maySecond, isContinuation_continuation, Bool.true_and, lead, toNat_continuation]
    rw [if_neg (by omega), if_neg (by omega)]
    split
    · simp only [decide_eq_true_eq]
      omega
    · split
      · simp only [decide_eq_true_eq]
        omega
      · rfl
  have whole : assemble (0xF0 + c.val / 262144 - 0xF0)
      [.ofNat (0x80 + c.val / 4096 % 64), .ofNat (0x80 + c.val / 64 % 64),
        .ofNat (0x80 + c.val % 64)] = c := by
    simp only [assemble, List.foldl, toNat_continuation]
    rw [show (((0xF0 + c.val / 262144 - 0xF0) * 64 + (0x80 + c.val / 4096 % 64 - 0x80)) * 64
      + (0x80 + c.val / 64 % 64 - 0x80)) * 64 + (0x80 + c.val % 64 - 0x80) = c.val by omega]
    exact CodePoint.ofNat_val c
  unfold decodeOne
  rw [lead, if_neg (by omega), if_neg (by omega), if_neg (by omega), if_neg (by omega),
    if_pos (by omega)]
  simp only [decodeFour, second, isContinuation_continuation, lead, whole, Bool.not_true,
    Bool.false_eq_true, if_false, if_true]

/-- The bytes of a code point begin a byte list from which it is read again, and nothing else. -/
theorem decodeOne_encodeOne {c : CodePoint} (noSurrogate : c.isSurrogate = false) (rest : Bytes) :
    ∃ first tail, encodeOne c = first :: tail ∧ decodeOne first (tail ++ rest) = .char c rest := by
  unfold encodeOne
  by_cases one : c.val < 0x80
  · rw [if_pos one]
    exact ⟨_, _, rfl, decodeOne_ascii one rest⟩
  · by_cases two : c.val < 0x800
    · rw [if_neg one, if_pos two]
      exact ⟨_, _, rfl, decodeOne_two (by omega) two rest⟩
    · by_cases three : c.val < 0x10000
      · rw [if_neg one, if_neg two, if_pos three]
        exact ⟨_, _, rfl, decodeOne_three (by omega) three noSurrogate rest⟩
      · rw [if_neg one, if_neg two, if_neg three]
        exact ⟨_, _, rfl, decodeOne_four (by omega) rest⟩

theorem decodeFrom_cons_of_char {done : Text} {first : UInt8} {bytes rest : Bytes} {c : CodePoint}
    (read : decodeOne first bytes = .char c rest) :
    decodeFrom done (first :: bytes) = decodeFrom (c :: done) rest := by
  rw [decodeFrom]
  split
  · next other after same =>
    rw [read] at same
    cases same
    rfl
  · next flaw length same =>
    rw [read] at same
    cases same

theorem decodeFrom_flatMap_encodeOne (done t : Text) (rest : Bytes)
    (noSurrogate : ∀ c ∈ t, c.isSurrogate = false) :
    decodeFrom done (t.flatMap encodeOne ++ rest) = decodeFrom (t.reverse ++ done) rest := by
  induction t generalizing done with
  | nil => rfl
  | cons c t ih =>
    have remaining : ∀ d ∈ t, d.isSurrogate = false := fun d membership =>
      noSurrogate d (List.mem_cons_of_mem c membership)
    obtain ⟨first, tail, written, read⟩ :=
      decodeOne_encodeOne (noSurrogate c List.mem_cons_self) (t.flatMap encodeOne ++ rest)
    rw [List.flatMap_cons, written, List.append_assoc, List.cons_append,
      decodeFrom_cons_of_char read, ih (c :: done) remaining]
    simp

theorem decode_flatMap_encodeOne {t : Text} (noSurrogate : t.hasSurrogate = false) :
    decode (t.flatMap encodeOne) = .ok t := by
  have read := decodeFrom_flatMap_encodeOne [] t [] (Text.hasSurrogate_eq_false_iff.mp noSurrogate)
  rw [List.append_nil, List.append_nil] at read
  unfold decode
  rw [read, decodeFrom, List.reverse_reverse]

theorem zero_notMem_encodeOne {c : CodePoint} (nonzero : c.val ≠ 0) : 0 ∉ encodeOne c := by
  have positive {n : Nat} (low : 0 < n) (high : n < 0x100) : (0 : UInt8) ≠ .ofNat n := by
    intro same
    have := congrArg UInt8.toNat same
    rw [toNat_lead high] at this
    simp only [UInt8.toNat_zero] at this
    omega
  have bound := c.val_lt
  unfold encodeOne
  split
  · simpa using positive (by omega) (by omega)
  · split
    · simp only [List.mem_cons, List.not_mem_nil, or_false, not_or]
      exact ⟨positive (by omega) (by omega), positive (by omega) (by omega)⟩
    · split
      · simp only [List.mem_cons, List.not_mem_nil, or_false, not_or]
        exact ⟨positive (by omega) (by omega), positive (by omega) (by omega),
          positive (by omega) (by omega)⟩
      · simp only [List.mem_cons, List.not_mem_nil, or_false, not_or]
        exact ⟨positive (by omega) (by omega), positive (by omega) (by omega),
          positive (by omega) (by omega), positive (by omega) (by omega)⟩

theorem zero_notMem_flatMap_encodeOne {t : Text} (noNull : t.hasNull = false) :
    0 ∉ t.flatMap encodeOne := by
  intro membership
  obtain ⟨c, inside, zero⟩ := List.mem_flatMap.mp membership
  exact zero_notMem_encodeOne (Text.hasNull_eq_false_iff.mp noNull c inside) zero

end Utf8

end EventScript
