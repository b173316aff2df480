import EventScript.Json.Token
import EventScript.Json.Writing
import EventScript.Proofs.Text.Utf8

/-!
# Written texts are scanned back

Every code point has an escape or stands for itself, and is scanned back. Two surrogates in a row
are the exception: they are written as a code point beyond U+FFFF is, and are scanned as that.
-/

namespace EventScript

namespace CodePoint

def isHighHalf (c : CodePoint) : Bool :=
  0xD800 ≤ c.val && c.val ≤ 0xDBFF

def isLowHalf (c : CodePoint) : Bool :=
  0xDC00 ≤ c.val && c.val ≤ 0xDFFF

/-- The code point of a surrogate pair. -/
def ofHalves (high low : Nat) : CodePoint :=
  .ofNat (0x10000 + (high - 0xD800) * 0x400 + (low - 0xDC00))

theorem halves_iff {high low : CodePoint} :
    (high.isHighHalf && low.isLowHalf) = true ↔
      (0xD800 ≤ high.val ∧ high.val ≤ 0xDBFF) ∧ 0xDC00 ≤ low.val ∧ low.val ≤ 0xDFFF := by
  simp [isHighHalf, isLowHalf]

end CodePoint

/-- Surrogate pairs made one. -/
def Text.joinHalves : Text → Text
  | [] => []
  | [c] => [c]
  | high :: low :: rest =>
    if high.isHighHalf && low.isLowHalf then .ofHalves high.val low.val :: joinHalves rest
    else high :: joinHalves (low :: rest)

namespace Json

theorem hexValue?_hexDigit {d : Nat} (small : d < 16) :
    hexValue? (CodePoint.hexDigit d) = some d := by
  have every : ∀ d : Fin 16, hexValue? (CodePoint.hexDigit d) = some d.val := by decide
  exact every ⟨d, small⟩

theorem hexFour?_hex {n : Nat} (small : n < 0x10000) {rest : Text} (more : rest ≠ []) :
    hexFour? (Text.hex 4 n ++ rest) = some n := by
  obtain ⟨c, rest, rfl⟩ := List.exists_cons_of_ne_nil more
  have digits : Text.hex 4 n = [CodePoint.hexDigit (n / 4096 % 16),
      CodePoint.hexDigit (n / 256 % 16), CodePoint.hexDigit (n / 16 % 16),
      CodePoint.hexDigit (n / 1 % 16)] := rfl
  have below (m : Nat) : m % 16 < 16 := Nat.mod_lt m (by decide)
  rw [digits]
  simp only [List.cons_append, List.nil_append, hexFour?, hexValue?_hexDigit (below _),
    Option.bind_eq_bind, Option.bind_some, Option.some.injEq]
  omega

/-- The ways in which a code point is written. -/
theorem writeChar_cases (c : CodePoint) :
    (∃ e, writeChar c = [CodePoint.ofChar '\\', e] ∧ e ≠ 'u' ∧ simpleEscape? e = some c) ∨
    (writeChar c = [c] ∧ c ≠ '"' ∧ c ≠ '\\' ∧ 0x20 ≤ c.val) ∨
    (writeChar c = unicodeEscape c.val ∧ c.val < 0x10000) ∨
    (writeChar c = pairEscape c ∧ 0x10000 ≤ c.val) := by
  by_cases marked : c = '"' ∨ c = '\\'
  · refine .inl ⟨c, if_pos marked, ?_, ?_⟩
    · rcases marked with rfl | rfl <;> decide
    · rcases marked with rfl | rfl <;> rfl
  by_cases feed : c = '\n'
  · exact .inl ⟨'n', by subst feed; rfl, by decide, by subst feed; rfl⟩
  by_cases carriage : c = '\r'
  · exact .inl ⟨'r', by subst carriage; rfl, by decide, by subst carriage; rfl⟩
  by_cases tab : c = '\t'
  · exact .inl ⟨'t', by subst tab; rfl, by decide, by subst tab; rfl⟩
  by_cases form : c = '\x0c'
  · exact .inl ⟨'f', by subst form; rfl, by decide, by subst form; rfl⟩
  by_cases back : c = '\x08'
  · exact .inl ⟨'b', by subst back; rfl, by decide, by subst back; rfl⟩
  unfold writeChar
  rw [if_neg marked, if_neg feed, if_neg carriage, if_neg tab, if_neg form, if_neg back]
  rw [not_or] at marked
  by_cases plain : 0x20 ≤ c.val ∧ c.val < 0x7F
  · rw [if_pos plain]
    exact .inr (.inl ⟨rfl, marked.1, marked.2, plain.1⟩)
  · rw [if_neg plain]
    by_cases small : c.val < 0x10000
    · rw [if_pos small]
      exact .inr (.inr (.inl ⟨rfl, small⟩))
    · rw [if_neg small]
      exact .inr (.inr (.inr ⟨rfl, Nat.le_of_not_lt small⟩))

section

variable {start position : Nat} {done rest : Text}

theorem scanText_of_scanEscape {c : CodePoint} {length : Nat} {t : Text}
    (scanned : scanEscape start position t = .ok (c, length)) :
    scanText start position done (CodePoint.ofChar '\\' :: t) =
      scanText start (position + 1 + length) (c :: done) (t.drop length) := by
  rw [scanText, if_neg (by decide), if_pos rfl, scanned]

theorem scanText_simpleEscape {c e : CodePoint} (short : e ≠ 'u')
    (known : simpleEscape? e = some c) :
    scanText start position done (CodePoint.ofChar '\\' :: e :: rest) =
      scanText start (position + 2) (c :: done) rest := by
  have scanned : scanEscape start position (e :: rest) = .ok (c, 1) := by
    rw [scanEscape, if_neg short, known]
  rw [scanText_of_scanEscape scanned]
  rfl

theorem scanText_plain {c : CodePoint} (noMark : c ≠ '"') (noEscape : c ≠ '\\')
    (printable : 0x20 ≤ c.val) :
    scanText start position done (c :: rest) = scanText start (position + 1) (c :: done) rest := by
  rw [scanText, if_neg noMark, if_neg noEscape, if_neg (Nat.not_lt.mpr printable)]

theorem unicodeEscape_append (n : Nat) (rest : Text) :
    unicodeEscape n ++ rest =
      CodePoint.ofChar '\\' :: CodePoint.ofChar 'u' :: (Text.hex 4 n ++ rest) :=
  rfl

/-- An escape stands for its number unless it is the first half of a pair. -/
theorem scanText_unicodeEscape {n : Nat} (small : n < 0x10000) (more : rest ≠ [])
    (alone : 0xD800 ≤ n ∧ n ≤ 0xDBFF → lowHalf? rest = none) :
    scanText start position done (unicodeEscape n ++ rest) =
      scanText start (position + 6) (.ofNat n :: done) rest := by
  have after : (Text.hex 4 n ++ rest).drop 4 = rest := List.drop_left' rfl
  have scanned : scanEscape start position (CodePoint.ofChar 'u' :: (Text.hex 4 n ++ rest)) =
      .ok (.ofNat n, 5) := by
    rw [scanEscape, if_pos rfl, hexFour?_hex small more, after]
    by_cases high : 0xD800 ≤ n ∧ n ≤ 0xDBFF
    · simp only [if_pos high, alone high]
    · simp only [if_neg high]
  rw [unicodeEscape_append, scanText_of_scanEscape scanned]
  exact congrArg _ after

theorem lowHalf?_unicodeEscape {n : Nat} (small : n < 0x10000) (more : rest ≠ []) :
    lowHalf? (unicodeEscape n ++ rest) = if 0xDC00 ≤ n ∧ n ≤ 0xDFFF then some n else none := by
  rw [unicodeEscape_append, lowHalf?, if_pos ⟨rfl, rfl⟩, hexFour?_hex small more]

/-- The escapes of two halves stand for one code point. -/
theorem scanText_pair {high low : Nat} (isHigh : 0xD800 ≤ high ∧ high ≤ 0xDBFF)
    (isLow : 0xDC00 ≤ low ∧ low ≤ 0xDFFF) (more : rest ≠ []) :
    scanText start position done (unicodeEscape high ++ (unicodeEscape low ++ rest)) =
      scanText start (position + 12) (.ofHalves high low :: done) rest := by
  have after : (Text.hex 4 high ++ (unicodeEscape low ++ rest)).drop 4 =
      unicodeEscape low ++ rest := List.drop_left' rfl
  have next : unicodeEscape low ++ rest ≠ [] := List.append_ne_nil_of_right_ne_nil _ more
  have scanned : scanEscape start position
      (CodePoint.ofChar 'u' :: (Text.hex 4 high ++ (unicodeEscape low ++ rest))) =
        .ok (.ofHalves high low, 11) := by
    rw [scanEscape, if_pos rfl, hexFour?_hex (by omega) next, after]
    have half := lowHalf?_unicodeEscape (show low < 0x10000 by omega) more
    simp only [if_pos isHigh, half, if_pos isLow]
    rfl
  rw [unicodeEscape_append, scanText_of_scanEscape scanned]
  rfl

theorem ofHalves_pairEscape {c : CodePoint} (beyond : 0x10000 ≤ c.val) :
    CodePoint.ofHalves (0xD800 + (c.val - 0x10000) / 0x400)
      (0xDC00 + (c.val - 0x10000) % 0x400) = c := by
  have bound := c.val_lt
  apply CodePoint.eq_of_val_eq
  unfold CodePoint.ofHalves
  rw [CodePoint.val_ofNat (by omega)]
  omega

theorem scanText_writeChar {c : CodePoint} (more : rest ≠ [])
    (alone : c.isHighHalf = true → lowHalf? rest = none) :
    scanText start position done (writeChar c ++ rest) =
      scanText start (position + (writeChar c).length) (c :: done) rest := by
  rcases writeChar_cases c with ⟨e, written, short, known⟩ |
    ⟨written, noMark, noEscape, printable⟩ | ⟨written, small⟩ | ⟨written, beyond⟩
  · rw [written]
    exact scanText_simpleEscape short known
  · rw [written]
    exact scanText_plain noMark noEscape printable
  · rw [written, scanText_unicodeEscape small more, CodePoint.ofNat_val]
    · rfl
    · intro high
      apply alone
      simpa [CodePoint.isHighHalf] using high
  · have bound := c.val_lt
    rw [written, pairEscape, List.append_assoc,
      scanText_pair (by omega) (by omega) more, ofHalves_pairEscape beyond]
    rfl

theorem lowHalf?_writeChar {c : CodePoint} (other : c.isLowHalf = false) (more : rest ≠ []) :
    lowHalf? (writeChar c ++ rest) = none := by
  rcases writeChar_cases c with ⟨e, written, short, known⟩ |
    ⟨written, noMark, noEscape, printable⟩ | ⟨written, small⟩ | ⟨written, beyond⟩
  · rw [written]
    simp [lowHalf?, short]
  · obtain ⟨d, rest, rfl⟩ := List.exists_cons_of_ne_nil more
    rw [written]
    simp [lowHalf?, noEscape]
  · rw [written, lowHalf?_unicodeEscape small more, if_neg]
    simpa [CodePoint.isLowHalf] using other
  · have bound := c.val_lt
    rw [written, pairEscape, List.append_assoc, lowHalf?_unicodeEscape (by omega),
      if_neg (by omega)]
    exact List.append_ne_nil_of_right_ne_nil _ more

/-- A half alone stays one: what follows it is not written as the second half. -/
theorem lowHalf?_flatMap_writeChar {t : Text} (other : ∀ c ∈ t.head?, c.isLowHalf = false) :
    lowHalf? (t.flatMap writeChar ++ CodePoint.ofChar '"' :: rest) = none := by
  cases t with
  | nil => cases rest <;> rfl
  | cons c t =>
    rw [List.flatMap_cons, List.append_assoc]
    apply lowHalf?_writeChar (other c rfl)
    exact List.append_ne_nil_of_right_ne_nil _ (List.cons_ne_nil _ _)

theorem length_unicodeEscape (n : Nat) : (unicodeEscape n).length = 6 := rfl

theorem writeChar_of_unprintable {c : CodePoint} (unprintable : 0x7F ≤ c.val) :
    writeChar c = if c.val < 0x10000 then unicodeEscape c.val else pairEscape c := by
  have other (d : CodePoint) (printable : d.val < 0x7F) : c ≠ d := by
    rintro rfl
    omega
  unfold writeChar
  rw [if_neg (not_or.mpr ⟨other '"' (by decide), other '\\' (by decide)⟩),
    if_neg (other '\n' (by decide)), if_neg (other '\r' (by decide)),
    if_neg (other '\t' (by decide)), if_neg (other '\x0c' (by decide)),
    if_neg (other '\x08' (by decide)), if_neg (by omega)]

theorem writeChar_of_half {c : CodePoint} (half : 0xD800 ≤ c.val ∧ c.val ≤ 0xDFFF) :
    writeChar c = unicodeEscape c.val := by
  rw [writeChar_of_unprintable (by omega), if_pos (by omega)]

theorem writeChar_ofHalves {high low : Nat} (isHigh : 0xD800 ≤ high ∧ high ≤ 0xDBFF)
    (isLow : 0xDC00 ≤ low ∧ low ≤ 0xDFFF) :
    writeChar (.ofHalves high low) = unicodeEscape high ++ unicodeEscape low := by
  have whole : (CodePoint.ofHalves high low).val =
      0x10000 + (high - 0xD800) * 0x400 + (low - 0xDC00) := CodePoint.val_ofNat (by omega)
  have first : 0xD800 + (0x10000 + (high - 0xD800) * 0x400 + (low - 0xDC00) - 0x10000) / 0x400 =
      high := by omega
  have second : 0xDC00 + (0x10000 + (high - 0xD800) * 0x400 + (low - 0xDC00) - 0x10000) % 0x400 =
      low := by omega
  rw [writeChar_of_unprintable (by omega), if_neg (by omega), pairEscape, whole, first, second]

/-- A written text is scanned up to its closing mark, with its surrogate pairs made one. -/
theorem scanText_flatMap_writeChar (t : Text) :
    scanText start position done (t.flatMap writeChar ++ CodePoint.ofChar '"' :: rest) =
      .ok (done.reverse ++ t.joinHalves, position + (t.flatMap writeChar).length + 1) := by
  induction t using Text.joinHalves.induct generalizing position done with
  | case1 =>
    rw [List.flatMap_nil, List.nil_append, scanText, if_pos rfl]
    simp [Text.joinHalves]
  | case2 c =>
    have alone : c.isHighHalf = true → lowHalf? (CodePoint.ofChar '"' :: rest) = none :=
      fun _ => lowHalf?_flatMap_writeChar (t := []) (by simp)
    rw [List.flatMap_singleton, scanText_writeChar (List.cons_ne_nil _ _) alone, scanText,
      if_pos rfl, List.reverse_cons]
    rfl
  | case3 high low t paired ih =>
    obtain ⟨isHigh, isLow⟩ := CodePoint.halves_iff.mp paired
    have more : t.flatMap writeChar ++ CodePoint.ofChar '"' :: rest ≠ [] :=
      List.append_ne_nil_of_right_ne_nil _ (List.cons_ne_nil _ _)
    rw [List.flatMap_cons, List.flatMap_cons, writeChar_of_half (by omega),
      writeChar_of_half (by omega), List.append_assoc, List.append_assoc,
      scanText_pair isHigh isLow more, ih, Text.joinHalves, if_pos paired]
    simp only [List.reverse_cons, List.append_assoc, List.singleton_append, List.length_append,
      length_unicodeEscape]
    congr 2
    omega
  | case4 high low t unpaired ih =>
    have more : (low :: t).flatMap writeChar ++ CodePoint.ofChar '"' :: rest ≠ [] :=
      List.append_ne_nil_of_right_ne_nil _ (List.cons_ne_nil _ _)
    have alone : high.isHighHalf = true →
        lowHalf? ((low :: t).flatMap writeChar ++ CodePoint.ofChar '"' :: rest) = none := by
      intro isHigh
      apply lowHalf?_flatMap_writeChar
      intro c first
      cases first
      simpa [isHigh] using unpaired
    rw [List.flatMap_cons, List.append_assoc, scanText_writeChar more alone, ih, Text.joinHalves,
      if_neg unpaired]
    simp only [List.reverse_cons, List.append_assoc, List.singleton_append, List.length_append]
    congr 2
    omega

end

/-- A pair and its code point are written alike. -/
theorem flatMap_writeChar_joinHalves (t : Text) :
    t.joinHalves.flatMap writeChar = t.flatMap writeChar := by
  induction t using Text.joinHalves.induct with
  | case1 => rfl
  | case2 c => rfl
  | case3 high low t paired ih =>
    obtain ⟨isHigh, isLow⟩ := CodePoint.halves_iff.mp paired
    rw [Text.joinHalves, if_pos paired, List.flatMap_cons, ih, List.flatMap_cons, List.flatMap_cons,
      writeChar_ofHalves isHigh isLow, writeChar_of_half (by omega),
      writeChar_of_half (by omega), List.append_assoc]
  | case4 high low t unpaired ih =>
    rw [Text.joinHalves, if_neg unpaired, List.flatMap_cons, ih]
    rfl

theorem joinHalves_eq_self {t : Text} (noSurrogate : t.hasSurrogate = false) :
    t.joinHalves = t := by
  induction t using Text.joinHalves.induct with
  | case1 => rfl
  | case2 c => rfl
  | case3 high low t paired ih =>
    obtain ⟨isHigh, -⟩ := CodePoint.halves_iff.mp paired
    have plain := Text.hasSurrogate_eq_false_iff.mp noSurrogate high List.mem_cons_self
    simp only [CodePoint.isSurrogate, Bool.and_eq_false_iff, decide_eq_false_iff_not] at plain
    omega
  | case4 high low t unpaired ih =>
    have others : Text.hasSurrogate (low :: t) = false := by
      rw [Text.hasSurrogate_eq_false_iff] at noSurrogate ⊢
      exact fun c membership => noSurrogate c (List.mem_cons_of_mem high membership)
    rw [Text.joinHalves, if_neg unpaired, ih others]

theorem writeText_joinHalves (t : Text) : writeText t.joinHalves = writeText t := by
  unfold writeText
  rw [flatMap_writeChar_joinHalves]

/-- Texts are written alike if they differ in surrogate pairs alone. -/
theorem writeText_inj {t u : Text} : writeText t = writeText u ↔ t.joinHalves = u.joinHalves := by
  constructor
  · intro same
    have inside : t.flatMap writeChar ++ [CodePoint.ofChar '"'] =
        u.flatMap writeChar ++ [CodePoint.ofChar '"'] := (List.cons.inj same).2
    have scanned (t : Text) : scanText 0 0 [] (t.flatMap writeChar ++ [CodePoint.ofChar '"']) =
        .ok (t.joinHalves, 0 + (t.flatMap writeChar).length + 1) := scanText_flatMap_writeChar t
    have read := scanned t
    rw [inside, scanned u] at read
    exact (congrArg Prod.fst (Except.ok.inj read)).symm
  · intro same
    rw [← writeText_joinHalves t, same, writeText_joinHalves]

end Json

end EventScript
