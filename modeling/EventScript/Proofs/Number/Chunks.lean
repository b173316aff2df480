import EventScript.Json.Number
import EventScript.Proofs.Number.Decimal
import EventScript.Proofs.Number.Word

/-!
# Decimals in chunks

A decimal too long to be read at once is read in chunks. What the chunks so far amount to is always
the number of their digits modulo 2⁶⁴, so that neither the size of the chunks nor the shorter last
one makes a difference, as long as each chunk can be read at once.
-/

namespace EventScript

namespace Word

open Numeral

variable {t sign chunk : Text} {negative : Bool} {n size : Nat} {digits : List Nat}
  {pieces : List Text}

/-- Pieces of `size` code points, of which only the last may be shorter. -/
def chunks (size : Nat) : Text → List Text
  | [] => []
  | c :: rest => (c :: rest.take (size - 1)) :: chunks size (rest.drop (size - 1))
  termination_by t => t.length
  decreasing_by
    simp only [List.length_drop, List.length_cons]
    omega

theorem chunks_cons (positive : 0 < size) (nonempty : t ≠ []) :
    chunks size t = t.take size :: chunks size (t.drop size) := by
  obtain ⟨c, rest, rfl⟩ := List.exists_cons_of_ne_nil nonempty
  obtain ⟨fewer, rfl⟩ := Nat.exists_eq_add_of_lt positive
  rw [chunks]
  simp

/-- A chunk holds one code point and as many of the next as fit in. -/
theorem exists_of_mem_chunks (listed : chunk ∈ chunks size t) :
    ∃ c rest, chunk = c :: List.take (size - 1) rest := by
  induction t using chunks.induct size with
  | case1 =>
    rw [chunks] at listed
    cases listed
  | case2 c rest ih =>
    rw [chunks] at listed
    rcases List.mem_cons.mp listed with rfl | later
    · exact ⟨c, rest, rfl⟩
    · exact ih later

theorem ne_nil_of_mem_chunks (listed : chunk ∈ chunks size t) : chunk ≠ [] := by
  obtain ⟨c, rest, rfl⟩ := exists_of_mem_chunks listed
  exact List.cons_ne_nil _ _

theorem length_le_of_mem_chunks (positive : 0 < size) (listed : chunk ∈ chunks size t) :
    chunk.length ≤ size := by
  obtain ⟨c, rest, rfl⟩ := exists_of_mem_chunks listed
  rw [List.length_cons, List.length_take]
  omega

theorem flatten_chunks (size : Nat) (t : Text) : (chunks size t).flatten = t := by
  induction t using chunks.induct size with
  | case1 =>
    rw [chunks]
    rfl
  | case2 c rest ih =>
    rw [chunks, List.flatten_cons, ih, List.cons_append, List.take_append_drop]

/-- The first chunks hold what comes first in the text. -/
theorem flatten_take_chunks (positive : 0 < size) (turns : Nat) (t : Text) :
    ((chunks size t).take turns).flatten = t.take (turns * size) := by
  induction turns generalizing t with
  | zero => simp
  | succ turns ih =>
    by_cases blank : t = []
    · simp [blank, chunks]
    · have count : (turns + 1) * size = size + turns * size := by ring
      rw [chunks_cons positive blank, List.take_succ_cons, List.flatten_cons, ih, count,
        List.take_add]

/-- One turn of the fold: the total so far is shifted by the digits of a chunk, which are put in. -/
def joinChunk (total : Nat) (chunk : Text) : Except Numeral.Fault Nat :=
  (Numeral.read chunk).map fun n =>
    (((total * Nat.pow 10 chunk.length : Nat) + n) % modulus).toNat

theorem foldChunks_eq_foldlM (size total : Nat) (t : Text) :
    foldChunks size total t = (chunks size t).foldlM joinChunk total := by
  induction t using chunks.induct size generalizing total with
  | case1 =>
    rw [foldChunks, chunks]
    rfl
  | case2 c rest ih =>
    rw [foldChunks, chunks, List.foldlM_cons, joinChunk]
    cases Numeral.read (c :: rest.take (size - 1)) with
    | error fault => rfl
    | ok n => exact ih _

theorem joined_toNat (total value : Nat) :
    (((total : Nat) + (value : Int)) % modulus).toNat = (total + value) % 2 ^ 64 := by
  have whole : modulus = ((2 ^ 64 : Nat) : Int) := rfl
  rw [whole, ← Int.natCast_add, ← Int.natCast_emod, Int.toNat_natCast]

theorem joinChunk_eq (has : HasDigits 10 chunk digits) (nonempty : chunk ≠ [])
    (short : chunk.length ≤ conversionLimit) (before : List Nat) :
    joinChunk (valueOf 10 before % 2 ^ 64) chunk =
      .ok (valueOf 10 (before ++ digits) % 2 ^ 64) := by
  have read : Numeral.read chunk = .ok (valueOf 10 digits : Nat) := by
    have denotes : Denotes 10 chunk (valueOf 10 digits) := ⟨nonempty, digits, has, rfl⟩
    exact denotes.read_eq (show [] ∈ signs false from List.mem_cons_self) short
  have joined : valueOf 10 before % 2 ^ 64 * 10 ^ digits.length + valueOf 10 digits ≡
      valueOf 10 (before ++ digits) [MOD 2 ^ 64] := by
    rw [valueOf_append]
    exact ((Nat.mod_modEq _ _).mul_right _).add_right _
  rw [joinChunk, read, has.length_eq]
  exact congrArg Except.ok ((joined_toNat _ _).trans joined)

/-- After every chunk the total is the number of all digits so far modulo 2⁶⁴. -/
theorem foldlM_joinChunk (filled : ∀ chunk ∈ pieces, chunk ≠ [])
    (short : ∀ chunk ∈ pieces, chunk.length ≤ conversionLimit)
    (has : HasDigits 10 pieces.flatten digits) (before : List Nat) :
    pieces.foldlM joinChunk (valueOf 10 before % 2 ^ 64) =
      .ok (valueOf 10 (before ++ digits) % 2 ^ 64) := by
  induction pieces generalizing digits before with
  | nil =>
    cases has
    rw [List.append_nil]
    rfl
  | cons chunk others ih =>
    rw [List.forall_mem_cons] at filled short
    rw [List.flatten_cons] at has
    have first : HasDigits 10 chunk (digits.take chunk.length) := by
      simpa using List.forall₂_take chunk.length has
    have later : HasDigits 10 others.flatten (digits.drop chunk.length) := by
      simpa using List.forall₂_drop chunk.length has
    rw [List.foldlM_cons, joinChunk_eq first filled.1 short.1]
    have continued := ih filled.2 short.2 later (before ++ digits.take chunk.length)
    rw [List.append_assoc, List.take_append_drop] at continued
    exact continued

/-- The chunks are short enough to be read if their size is, or the whole text. -/
theorem length_le_conversionLimit (positive : 0 < size)
    (short : size ≤ conversionLimit ∨ t.length ≤ conversionLimit) :
    ∀ chunk ∈ chunks size t, chunk.length ≤ conversionLimit := by
  intro chunk listed
  rcases short with small | short
  · exact Nat.le_trans (length_le_of_mem_chunks positive listed) small
  · have part := (List.sublist_flatten_of_mem listed).length_le
    rw [flatten_chunks] at part
    exact Nat.le_trans part short

/-- The total after some chunks is the number of the digits in them modulo 2⁶⁴. -/
theorem foldlM_take_chunks (has : HasDigits 10 t digits) (positive : 0 < size)
    (short : size ≤ conversionLimit ∨ t.length ≤ conversionLimit) (turns : Nat) :
    ((chunks size t).take turns).foldlM joinChunk 0 =
      .ok (valueOf 10 (digits.take (turns * size)) % 2 ^ 64) := by
  have filled : ∀ chunk ∈ (chunks size t).take turns, chunk ≠ [] :=
    fun chunk listed => ne_nil_of_mem_chunks (List.mem_of_mem_take listed)
  have fits : ∀ chunk ∈ (chunks size t).take turns, chunk.length ≤ conversionLimit :=
    fun chunk listed => length_le_conversionLimit positive short chunk (List.mem_of_mem_take listed)
  have consumed : HasDigits 10 ((chunks size t).take turns).flatten
      (digits.take (turns * size)) := by
    rw [flatten_take_chunks positive]
    exact List.forall₂_take _ has
  exact foldlM_joinChunk filled fits consumed []

theorem signed_mod_modEq (negative : Bool) (n : Nat) :
    signed negative (n % 2 ^ 64) ≡ signed negative n [ZMOD modulus] := by
  have positive : ((n % 2 ^ 64 : Nat) : Int) ≡ n [ZMOD modulus] := by
    rw [Int.natCast_emod]
    exact Int.mod_modEq n modulus
  cases negative with
  | false => exact positive
  | true => exact positive.neg

/-- Digits are what is folded, whatever sign is in front of them. -/
theorem ofDecimal_append (has : HasDigits 10 t digits) (allowed : sign ∈ signs negative)
    (size : Nat) : ofDecimal size (sign ++ t) =
      (foldChunks size 0 t).map fun n => wrap (signed negative n) := by
  have unsigned : (sign ++ t).dropWhile (fun (c : CodePoint) => c = '+' ∨ c = '-') = t := by
    apply Text.dropWhile_append_eq
    · rcases mem_signs_cases allowed with ⟨rfl, -⟩ | ⟨rfl, -⟩ | ⟨rfl, -⟩ <;> decide
    · intro c first
      exact decide_eq_false
        (not_isSign_of_isDigit (isDigit_of_hasDigits has c (List.mem_of_head? first)))
  have negates : ((sign ++ t).head? == some (CodePoint.ofChar '-')) = negative := by
    rcases mem_signs_cases allowed with ⟨rfl, rfl⟩ | ⟨rfl, rfl⟩ | ⟨rfl, rfl⟩
    · rfl
    · rw [List.nil_append, beq_eq_false_iff_ne]
      intro first
      exact not_isSign_of_isDigit (isDigit_of_hasDigits has _ (List.mem_of_head? first)) (.inr rfl)
    · rfl
  unfold ofDecimal
  simp only [negates, unsigned]
  cases foldChunks size 0 t <;> rfl

/-- A signed decimal of any length is folded to the word of its number, whatever the size of the
chunks that can be read. -/
theorem ofDecimal_of_hasDigits (has : HasDigits 10 t digits) (allowed : sign ∈ signs negative)
    (positive : 0 < size) (short : size ≤ conversionLimit ∨ t.length ≤ conversionLimit) :
    ofDecimal size (sign ++ t) = .ok (wrap (signed negative (valueOf 10 digits))) := by
  have folded : foldChunks size 0 t = .ok (valueOf 10 digits % 2 ^ 64) := by
    have whole : HasDigits 10 (chunks size t).flatten digits := (flatten_chunks size t).symm ▸ has
    rw [foldChunks_eq_foldlM]
    exact foldlM_joinChunk (fun chunk => ne_nil_of_mem_chunks)
      (length_le_conversionLimit positive short) whole []
  rw [ofDecimal_append has allowed, folded]
  exact congrArg Except.ok (wrap_eq_of_modEq (signed_mod_modEq negative _))

theorem ofDecimal_eq (denotes : Denotes 10 t n) (allowed : sign ∈ signs negative) :
    ofDecimal decimalChunk (sign ++ t) = .ok (wrap (signed negative n)) := by
  obtain ⟨digits, has, rfl⟩ := denotes.value
  exact ofDecimal_of_hasDigits has allowed (by decide) (.inl (by decide))

/-- A first chunk that is too long to be read is as far as the fold gets. -/
theorem ofDecimal_eq_error (has : HasDigits 10 t digits) (allowed : sign ∈ signs negative)
    (large : conversionLimit < size) (long : conversionLimit < t.length) :
    ofDecimal size (sign ++ t) = .error (.unreadable (min size t.length)) := by
  have nonempty : t.take size ≠ [] := by
    rw [← List.length_pos_iff, List.length_take]
    omega
  have read : Numeral.read (t.take size) = .error (.unreadable (min size t.length)) := by
    have denotes : Denotes 10 (t.take size) (valueOf 10 (digits.take size)) :=
      ⟨nonempty, _, List.forall₂_take _ has, rfl⟩
    have refused := denotes.read_eq_error (show [] ∈ signs false from List.mem_cons_self)
      (by rw [List.length_take]; omega)
    rwa [List.length_take] at refused
  have divided : chunks size t = t.take size :: chunks size (t.drop size) :=
    chunks_cons (by omega) fun nothing => nonempty (by rw [nothing, List.take_nil])
  rw [ofDecimal_append has allowed, foldChunks_eq_foldlM, divided, List.foldlM_cons, joinChunk,
    read]
  rfl

/-- Folding in chunks is the same as converting the whole decimal and wrapping its number, for the
chunks in use and for those of any other size within the limit on digits. The total after each chunk
is the number of the digits consumed modulo 2⁶⁴. Larger chunks do as well for decimals that are
within the limit themselves, and no longer decimal can be folded with them. -/
theorem ofDecimal_of_chunkSize {t sign : Text} {negative : Bool} {digits : List Nat}
    (has : HasDigits 10 t digits) (allowed : sign ∈ signs negative) :
    ofDecimal decimalChunk (sign ++ t) = .ok (wrap (signed negative (valueOf 10 digits))) ∧
      ∀ size, 0 < size →
        foldChunks size 0 t = (chunks size t).foldlM joinChunk 0 ∧
        (size ≤ conversionLimit ∨ t.length ≤ conversionLimit →
          ofDecimal size (sign ++ t) = .ok (wrap (signed negative (valueOf 10 digits))) ∧
          ∀ turns, ((chunks size t).take turns).flatten = t.take (turns * size) ∧
            ((chunks size t).take turns).foldlM joinChunk 0 =
              .ok (valueOf 10 (digits.take (turns * size)) % 2 ^ 64)) ∧
        (conversionLimit < size → conversionLimit < t.length →
          ofDecimal size (sign ++ t) = .error (.unreadable (min size t.length))) := by
  refine ⟨ofDecimal_of_hasDigits has allowed (by decide) (.inl (by decide)), ?_⟩
  intro size positive
  refine ⟨foldChunks_eq_foldlM size 0 t, ?_, ofDecimal_eq_error has allowed⟩
  intro short
  refine ⟨ofDecimal_of_hasDigits has allowed positive short, ?_⟩
  intro turns
  exact ⟨flatten_take_chunks positive turns t, foldlM_take_chunks has positive short turns⟩

/-- The last chunk holds two digits only, and the minus counts after the fold. -/
theorem ofDecimal_of_chunkSize_negative :
    HasDigits 10 "18446744073709551621"
        [1, 8, 4, 4, 6, 7, 4, 4, 0, 7, 3, 7, 0, 9, 5, 5, 1, 6, 2, 1] ∧
      Text.ofString "-" ∈ signs true ∧
      ofDecimal decimalChunk "-18446744073709551621" = .ok (-5) ∧
      ofDecimal 7 "-18446744073709551621" = .ok (-5) ∧
      ((chunks 7 "18446744073709551621").take 2).foldlM joinChunk 0 = .ok 18446744073709 := by
  have has : HasDigits 10 "18446744073709551621"
      [1, 8, 4, 4, 6, 7, 4, 4, 0, 7, 3, 7, 0, 9, 5, 5, 1, 6, 2, 1] := by decide
  have allowed : Text.ofString "-" ∈ signs true := by decide
  obtain ⟨inUse, others⟩ := ofDecimal_of_chunkSize has allowed
  obtain ⟨-, within, -⟩ := others 7 (by decide)
  obtain ⟨seven, turns⟩ := within (.inl (by decide))
  exact ⟨has, allowed, inUse, seven, (turns 2).2⟩

theorem hasDigits_replicate (count : Nat) :
    HasDigits 10 (List.replicate count (CodePoint.ofChar '1')) (List.replicate count 1) := by
  induction count with
  | zero => exact .nil
  | succ count ih => exact .cons ⟨rfl, by decide⟩ ih

/-- Five thousand digits cannot be folded in one chunk. -/
theorem not_forall_ofDecimal_of_chunkSize :
    ¬∀ (size : Nat) (t : Text) (digits : List Nat), 0 < size → HasDigits 10 t digits →
      ofDecimal size t = .ok (wrap (valueOf 10 digits)) := by
  intro every
  have folded := every 5000 _ _ (by decide) (hasDigits_replicate 5000)
  have refused := ofDecimal_eq_error (hasDigits_replicate 5000)
    (show [] ∈ signs false from List.mem_cons_self) (show conversionLimit < 5000 by decide)
    (by rw [List.length_replicate]; decide)
  cases refused.symm.trans folded

end Word

theorem Json.exists_integerText_eq (negative : Bool) (t : Text) :
    ∃ sign ∈ Numeral.signs negative,
      NumberLiteral.integerText ⟨negative, t, none, none⟩ = sign ++ t := by
  cases negative with
  | false => exact ⟨[], by simp [Numeral.signs], rfl⟩
  | true => exact ⟨"-", by simp [Numeral.signs], rfl⟩

/-- The integer of a literal is exact as long as the literal is short, and its word beyond that. -/
theorem Json.integer_eq {t sign : Text} {negative : Bool} {n : Nat}
    (denotes : Numeral.Denotes 10 t n) (allowed : sign ∈ Numeral.signs negative) :
    integer (sign ++ t) = .ok (if exactLimit < (sign ++ t).length then
      Word.wrap (Numeral.signed negative n) else Numeral.signed negative n) := by
  unfold integer
  split
  · exact Word.ofDecimal_eq denotes allowed
  · next short =>
    rw [List.length_append] at short
    have limits : exactLimit ≤ Numeral.conversionLimit := by decide
    exact denotes.read_eq allowed (by omega)

end EventScript
