import EventScript.Json.Token
import Mathlib.Data.List.Find
import Mathlib.Tactic.SplitIfs

/-!
# Tokens and what follows them

A token that is found at the end of a text is found there too if the text goes on with white space,
a comma, a colon or a closing bracket: none of these can become a part of it.
-/

namespace EventScript.Json

/-- What may stand right after a value: white space and the marks between values. -/
def tokenEnds : List CodePoint :=
  [' ', '\t', '\n', '\r', ',', ':', ']', '\x7d']

def endsToken (c : CodePoint) : Bool :=
  c ∈ tokenEnds

variable {mark : CodePoint}

/-- Nothing that a number can go on with ends a token. -/
theorem ne_of_endsToken (ends : endsToken mark = true) :
    mark.isDigit = false ∧ mark ≠ '.' ∧ mark ≠ 'e' ∧ mark ≠ 'E' ∧ mark ≠ '+' ∧ mark ≠ '-' := by
  have each : ∀ c ∈ tokenEnds,
      c.isDigit = false ∧ c ≠ '.' ∧ c ≠ 'e' ∧ c ≠ 'E' ∧ c ≠ '+' ∧ c ≠ '-' := by decide
  exact each mark (of_decide_eq_true ends)

theorem notMem_word_of_endsToken (ends : endsToken mark = true) :
    ∀ entry ∈ words, mark ∉ entry.1 := by
  have each : ∀ c ∈ tokenEnds, ∀ entry ∈ words, c ∉ entry.1 := by decide
  exact each mark (of_decide_eq_true ends)

section

variable {p : CodePoint → Bool} (stops : p mark = false) (t rest : Text)
include stops

theorem takeWhile_append_mark : (t ++ mark :: rest).takeWhile p = t.takeWhile p := by
  induction t with
  | nil => simp [stops]
  | cons c t ih => simp only [List.cons_append, List.takeWhile_cons, ih]

theorem dropWhile_append_mark :
    (t ++ mark :: rest).dropWhile p = t.dropWhile p ++ mark :: rest := by
  induction t with
  | nil => simp [stops]
  | cons c t ih =>
    simp only [List.cons_append, List.dropWhile_cons, ih]
    split <;> rfl

end

theorem isPrefixOf_append_mark {word : Text} (absent : mark ∉ word) (t rest : Text) :
    word.isPrefixOf (t ++ mark :: rest) = word.isPrefixOf t := by
  induction word generalizing t with
  | nil => simp
  | cons c word ih =>
    rw [List.mem_cons, not_or] at absent
    cases t with
    | nil => simp [List.isPrefixOf, Ne.symm absent.1]
    | cons d t => simp only [List.cons_append, List.isPrefixOf, ih absent.2]

/-! ## Numbers -/

namespace NumberLiteral

theorem scanWhole?_append (ends : endsToken mark = true) (t rest : Text) :
    scanWhole? (t ++ mark :: rest) =
      (scanWhole? t).map fun (whole, after) => (whole, after ++ mark :: rest) := by
  obtain ⟨noDigit, -⟩ := ne_of_endsToken ends
  have noZero : mark ≠ '0' := by
    rintro rfl
    cases noDigit
  cases t with
  | nil => simp [scanWhole?, noDigit, noZero]
  | cons c t =>
    simp only [List.cons_append, scanWhole?, takeWhile_append_mark noDigit,
      dropWhile_append_mark noDigit]
    split
    · rfl
    · split <;> rfl

theorem scanFraction_append (ends : endsToken mark = true) (t rest : Text) :
    scanFraction (t ++ mark :: rest) =
      ((scanFraction t).1, (scanFraction t).2 ++ mark :: rest) := by
  obtain ⟨noDigit, noPoint, -⟩ := ne_of_endsToken ends
  cases t with
  | nil => simp [scanFraction, noPoint]
  | cons c t =>
    have few : (t.takeWhile (·.isDigit)).length ≤ t.length :=
      (List.takeWhile_sublist _).length_le
    simp only [List.cons_append, scanFraction, takeWhile_append_mark noDigit]
    split
    · rw [List.drop_append_of_le_length few]
    · rfl

theorem scanExponent_append (ends : endsToken mark = true) (t rest : Text) :
    scanExponent (t ++ mark :: rest) = scanExponent t := by
  obtain ⟨noDigit, -, noE, noE', noPlus, noMinus⟩ := ne_of_endsToken ends
  cases t with
  | nil => simp [scanExponent, noE, noE']
  | cons c t =>
    have sign : ((t ++ mark :: rest).take 1).filter (fun (c : CodePoint) => c = '+' ∨ c = '-') =
        (t.take 1).filter fun (c : CodePoint) => c = '+' ∨ c = '-' := by
      cases t with
      | nil => simp [noPlus, noMinus]
      | cons d t => rfl
    have few : ((t.take 1).filter fun (c : CodePoint) => c = '+' ∨ c = '-').length ≤ t.length :=
      Nat.le_trans (List.length_filter_le ..) (List.length_take_le' ..)
    simp only [List.cons_append, scanExponent, sign, List.drop_append_of_le_length few,
      takeWhile_append_mark noDigit]

theorem scan?_append (ends : endsToken mark = true) (c : CodePoint) (t rest : Text) :
    scan? (c :: (t ++ mark :: rest)) = scan? (c :: t) := by
  unfold scan?
  rw [show (c :: (t ++ mark :: rest)).head? = (c :: t).head? from rfl]
  generalize ((c :: t).head? == some (CodePoint.ofChar '-')) = negative
  have cut : (if negative then (c :: (t ++ mark :: rest)).drop 1 else c :: (t ++ mark :: rest)) =
      (if negative then (c :: t).drop 1 else c :: t) ++ mark :: rest := by
    cases negative <;> rfl
  simp only [cut, scanWhole?_append ends]
  split
  · next failed => rw [Option.map_eq_none_iff.mp failed]
  · next whole after found =>
    obtain ⟨parts, scanned, same⟩ := Option.map_eq_some_iff.mp found
    cases same
    rw [scanned]
    simp only [scanFraction_append ends, scanExponent_append ends]

theorem length_of_scanWhole? {t whole after : Text} (scanned : scanWhole? t = some (whole, after)) :
    0 < whole.length ∧ whole.length + after.length = t.length := by
  unfold scanWhole? at scanned
  split at scanned
  · cases scanned
  · next c rest =>
    split at scanned
    · cases scanned
      simp [Nat.add_comm]
    · split at scanned
      · cases scanned
        have digits := congrArg List.length
          (List.takeWhile_append_dropWhile (p := (·.isDigit)) (l := rest))
        rw [List.length_append] at digits
        simp only [List.length_cons]
        omega
      · cases scanned

theorem length_scanFraction (t : Text) :
    (((scanFraction t).1).map fun digits => 1 + digits.length).getD 0 +
      (scanFraction t).2.length = t.length := by
  cases t with
  | nil => rfl
  | cons c rest =>
    have few : (rest.takeWhile (·.isDigit)).length ≤ rest.length :=
      (List.takeWhile_sublist _).length_le
    simp only [scanFraction]
    split
    · simp only [Option.map_some, Option.getD_some, List.length_drop, List.length_cons]
      omega
    · simp

theorem length_scanExponent_le (t : Text) :
    ((scanExponent t).map fun parts => 1 + parts.1.length + parts.2.length).getD 0 ≤
      t.length := by
  cases t with
  | nil => exact Nat.le_refl 0
  | cons c rest =>
    simp only [scanExponent]
    generalize sign_eq : (rest.take 1).filter (fun (c : CodePoint) => c = '+' ∨ c = '-') = sign
    split
    · have signed : sign.length ≤ rest.length :=
        sign_eq ▸ Nat.le_trans (List.length_filter_le ..) (List.length_take_le' ..)
      have digits : ((rest.drop sign.length).takeWhile (·.isDigit)).length ≤
          (rest.drop sign.length).length := (List.takeWhile_sublist _).length_le
      rw [List.length_drop] at digits
      simp only [Option.map_some, Option.getD_some, List.length_cons]
      omega
    · exact Nat.zero_le _

theorem length_of_scan? {t : Text} {literal : NumberLiteral} (scanned : scan? t = some literal) :
    0 < literal.length ∧ literal.length ≤ t.length := by
  simp only [scan?] at scanned
  split at scanned
  · cases scanned
  · next whole after found =>
    cases scanned
    obtain ⟨positive, total⟩ := length_of_scanWhole? found
    have fraction := length_scanFraction after
    have exponent := length_scanExponent_le (scanFraction after).2
    simp only [length]
    cases signed : t.head? == some (CodePoint.ofChar '-') with
    | false =>
      simp only [signed, Bool.false_eq_true, if_false] at total ⊢
      omega
    | true =>
      have nonempty : 0 < t.length := by
        cases t with
        | nil => cases signed
        | cons => exact Nat.succ_pos _
      simp only [signed, if_true, List.length_drop] at total ⊢
      omega

end NumberLiteral

/-! ## Texts -/

theorem hexFour?_append {t : Text} {n : Nat} (read : hexFour? t = some n) (more : Text) :
    hexFour? (t ++ more) = some n ∧ 5 ≤ t.length := by
  unfold hexFour? at read
  split at read
  · exact ⟨read, by simp⟩
  · cases read

theorem lowHalf?_append {t : Text} {n : Nat} (found : lowHalf? t = some n) (more : Text) :
    lowHalf? (t ++ more) = some n ∧ 7 ≤ t.length := by
  unfold lowHalf? at found
  split at found
  · next a b rest =>
    split at found
    · next escapes =>
      cases read : hexFour? rest with
      | none =>
        rw [read] at found
        cases found
      | some m =>
        obtain ⟨whole, long⟩ := hexFour?_append read more
        rw [read] at found
        simp only [List.cons_append, lowHalf?, if_pos escapes, whole]
        exact ⟨found, by simp only [List.length_cons]; omega⟩
    · cases found
  · cases found

/-- Where a text goes on to its closing mark, the escape of a second half is not cut off. -/
theorem lowHalf?_append_of_scanText {start position ending : Nat} {done t u : Text}
    (scanned : scanText start position done t = .ok (u, ending)) (more : Text) :
    lowHalf? (t ++ more) = lowHalf? t := by
  rcases t with - | ⟨a, - | ⟨b, rest⟩⟩
  · rw [scanText] at scanned
    cases scanned
  · have plain : a ≠ '\\' := by
      rintro rfl
      rw [scanText, if_neg (by decide), if_pos rfl] at scanned
      cases scanned
    cases more with
    | nil => rfl
    | cons b more => simp [lowHalf?, plain]
  · by_cases escapes : a = '\\' ∧ b = 'u'
    · obtain ⟨rfl, rfl⟩ := escapes
      rw [scanText, if_neg (by decide), if_pos rfl, scanEscape, if_pos rfl] at scanned
      cases read : hexFour? rest with
      | none =>
        rw [read] at scanned
        cases scanned
      | some n => simp [lowHalf?, read, (hexFour?_append read more).1]
    · simp only [List.cons_append, lowHalf?, if_neg escapes]

/-- An escape is scanned alike wherever it stands, if its text goes on to the closing mark. -/
theorem scanEscape_append {start position place ending length : Nat} {done t u : Text}
    {c : CodePoint} (escaped : scanEscape start position t = .ok (c, length))
    (scanned : scanText start place done (t.drop length) = .ok (u, ending))
    (start' position' : Nat) (more : Text) :
    scanEscape start' position' (t ++ more) = .ok (c, length) ∧ length ≤ t.length := by
  cases t with
  | nil => cases escaped
  | cons d t =>
    simp only [scanEscape] at escaped
    simp only [scanEscape, List.cons_append]
    split at escaped
    · next unicode =>
      rw [if_pos unicode]
      cases read : hexFour? t with
      | none =>
        rw [read] at escaped
        cases escaped
      | some high =>
        obtain ⟨whole, long⟩ := hexFour?_append read more
        simp only [read] at escaped
        simp only [whole]
        rw [List.drop_append_of_le_length (by omega)]
        by_cases first : 0xD800 ≤ high ∧ high ≤ 0xDBFF
        · simp only [if_pos first] at escaped ⊢
          cases second : lowHalf? (t.drop 4) with
          | some low =>
            obtain ⟨pair, longer⟩ := lowHalf?_append second more
            rw [second] at escaped
            obtain ⟨rfl, rfl⟩ := Prod.mk.inj (Except.ok.inj escaped)
            rw [List.length_drop] at longer
            simp only [pair, List.length_cons]
            exact ⟨trivial, by omega⟩
          | none =>
            rw [second] at escaped
            obtain ⟨rfl, rfl⟩ := Prod.mk.inj (Except.ok.inj escaped)
            rw [List.drop_succ_cons] at scanned
            rw [lowHalf?_append_of_scanText scanned more, second]
            simp only [List.length_cons]
            exact ⟨trivial, by omega⟩
        · simp only [if_neg first] at escaped ⊢
          cases escaped
          exact ⟨rfl, by simp only [List.length_cons]; omega⟩
    · next simple =>
      rw [if_neg simple]
      cases known : simpleEscape? d with
      | none =>
        rw [known] at escaped
        cases escaped
      | some e =>
        rw [known] at escaped
        cases escaped
        exact ⟨rfl, by simp⟩

/-- A text that is closed is scanned alike wherever it stands and whatever comes after it. -/
theorem scanText_append {start position ending : Nat} {done t u : Text}
    (scanned : scanText start position done t = .ok (u, ending)) :
    ∃ length, ending = position + length ∧ length ≤ t.length ∧
      ∀ start' position' more,
        scanText start' position' done (t ++ more) = .ok (u, position' + length) := by
  induction position, done, t using scanText.induct start with
  | case1 position done =>
    rw [scanText] at scanned
    cases scanned
  | case2 position done rest =>
    rw [scanText, if_pos rfl] at scanned
    cases scanned
    refine ⟨1, rfl, by simp, ?_⟩
    intro start' position' more
    rw [List.cons_append, scanText, if_pos rfl]
  | case3 position done rest refusal failed =>
    rw [scanText, if_neg (by decide), if_pos rfl, failed] at scanned
    cases scanned
  | case4 position done rest c length escaped _ ih =>
    rw [scanText, if_neg (by decide), if_pos rfl, escaped] at scanned
    obtain ⟨more, rfl, fits, further⟩ := ih scanned
    obtain ⟨-, bound⟩ := scanEscape_append escaped scanned start position []
    rw [List.length_drop] at fits
    refine ⟨1 + length + more, by omega, by simp only [List.length_cons]; omega, ?_⟩
    intro start' position' after
    rw [List.cons_append, scanText, if_neg (by decide), if_pos rfl,
      (scanEscape_append escaped scanned start' position' after).1]
    simp only [List.drop_append_of_le_length bound, further]
    congr 2
    omega
  | case5 position done c rest noMark noEscape control =>
    rw [scanText, if_neg noMark, if_neg noEscape, if_pos control] at scanned
    cases scanned
  | case6 position done c rest noMark noEscape printable ih =>
    rw [scanText, if_neg noMark, if_neg noEscape, if_neg printable] at scanned
    obtain ⟨more, rfl, fits, further⟩ := ih scanned
    refine ⟨1 + more, by omega, by simp only [List.length_cons]; omega, ?_⟩
    intro start' position' after
    rw [List.cons_append, scanText, if_neg noMark, if_neg noEscape, if_neg printable, further]
    congr 2
    omega

/-! ## Tokens -/

theorem find?_words_append (ends : endsToken mark = true) (c : CodePoint) (t rest : Text) :
    (words.find? fun (word, _) => word.isPrefixOf (c :: (t ++ mark :: rest))) =
      words.find? fun (word, _) => word.isPrefixOf (c :: t) := by
  apply List.find?_congr
  intro entry listed
  exact isPrefixOf_append_mark (notMem_word_of_endsToken ends entry listed) (c :: t) rest

/-- A token is scanned alike wherever it stands, if something that ends it follows, or nothing. -/
theorem scanToken_append {after : Text} (ends : ∀ mark ∈ after.head?, endsToken mark = true)
    {position length : Nat} {c : CodePoint} {t : Text} {token : Token}
    (scanned : scanToken position c t = (token, length)) (whole : token.isBroken = false)
    (position' : Nat) :
    scanToken position' c (t ++ after) = (token, length) ∧ 0 < length ∧ length ≤ t.length + 1 := by
  have sameWord : (words.find? fun (word, _) => word.isPrefixOf (c :: (t ++ after))) =
      words.find? fun (word, _) => word.isPrefixOf (c :: t) := by
    cases after with
    | nil => rw [List.append_nil]
    | cons mark rest => exact find?_words_append (ends mark rfl) c t rest
  have sameNumber : NumberLiteral.scan? (c :: (t ++ after)) = NumberLiteral.scan? (c :: t) := by
    cases after with
    | nil => rw [List.append_nil]
    | cons mark rest => exact NumberLiteral.scan?_append (ends mark rfl) c t rest
  unfold scanToken at scanned ⊢
  split_ifs at scanned ⊢
  -- A mark is a token by itself.
  iterate 6
    · cases scanned
      exact ⟨rfl, Nat.one_pos, Nat.le_add_left ..⟩
  · -- A text.
    cases found : scanText position (position + 1) [] t with
    | error refusal =>
      rw [found] at scanned
      cases scanned
      cases whole
    | ok read =>
      obtain ⟨u, ending⟩ := read
      rw [found] at scanned
      cases scanned
      obtain ⟨length, rfl, fits, further⟩ := scanText_append found
      simp only [further]
      refine ⟨Prod.ext rfl ?_, ?_, ?_⟩
      · show position' + 1 + length - position' = position + 1 + length - position
        omega
      · omega
      · omega
  · -- A word or a number.
    rw [sameWord, sameNumber]
    cases known : words.find? fun (word, _) => word.isPrefixOf (c :: t) with
    | some entry =>
      obtain ⟨word, v⟩ := entry
      rw [known] at scanned
      cases scanned
      have begins := List.find?_some known
      have fits := (List.isPrefixOf_iff_prefix.mp begins).length_le
      have nonempty : ∀ entry ∈ words, 0 < entry.1.length := by decide
      exact ⟨rfl, nonempty _ (List.mem_of_find?_eq_some known), fits⟩
    | none =>
      rw [known] at scanned
      simp only at scanned ⊢
      cases number : NumberLiteral.scan? (c :: t) with
      | none =>
        rw [number] at scanned
        cases scanned
        cases whole
      | some literal =>
        rw [number] at scanned
        simp only at scanned ⊢
        cases made : literal.toValue with
        | error fault =>
          rw [made] at scanned
          cases scanned
          cases whole
        | ok v =>
          rw [made] at scanned
          cases scanned
          exact ⟨rfl, NumberLiteral.length_of_scan? number⟩

/-- The text is cut into these tokens, none of which is broken. -/
inductive Cuts : Text → List Token → Prop
  | nil : Cuts [] []
  | space {c : CodePoint} {t : Text} {tokens : List Token} (space : isSpace c = true)
    (further : Cuts t tokens) : Cuts (c :: t) tokens
  | token {c : CodePoint} {t : Text} {token : Token} {position length : Nat} {tokens : List Token}
    (visible : isSpace c = false) (scanned : scanToken position c t = (token, length))
    (whole : token.isBroken = false) (further : Cuts (t.drop (length - 1)) tokens) :
    Cuts (c :: t) (token :: tokens)

/-- Before what ends a token, or at its end, a text is cut into the same tokens as by itself. -/
theorem Cuts.exists_tokensFrom_append {t after : Text} {tokens : List Token}
    (cuts : Cuts t tokens) (ends : ∀ mark ∈ after.head?, endsToken mark = true)
    (done : List Located) (position : Nat) :
    ∃ located : List Located, located.map Located.token = tokens ∧
      tokensFrom done position (t ++ after) =
        tokensFrom (located.reverse ++ done) (position + t.length) after := by
  induction cuts generalizing done position with
  | nil => exact ⟨[], rfl, rfl⟩
  | @space c t tokens space _ ih =>
    obtain ⟨located, same, further⟩ := ih done (position + 1)
    refine ⟨located, same, ?_⟩
    rw [List.cons_append, tokensFrom, if_pos space, further, List.length_cons]
    congr 1
    omega
  | @token c t token _ length tokens visible scanned whole _ ih =>
    obtain ⟨again, positive, fits⟩ := scanToken_append ends scanned whole position
    obtain ⟨located, same, further⟩ := ih (⟨position, token⟩ :: done) (position + length)
    refine ⟨⟨position, token⟩ :: located, congrArg (token :: ·) same, ?_⟩
    rw [List.cons_append, tokensFrom, if_neg (by simp [visible]), again]
    simp only [whole, Bool.false_eq_true, if_false]
    rw [List.drop_append_of_le_length (by omega), further, List.length_drop, List.length_cons,
      List.reverse_cons, List.append_assoc, List.singleton_append]
    congr 1
    omega

theorem cuts_of_tokensFrom {done : List Located} {position : Nat} {t : Text}
    (whole : ∀ located ∈ tokensFrom done position t, located.token.isBroken = false) :
    ∃ located : List Located, tokensFrom done position t = done.reverse ++ located ∧
      Cuts t (located.map Located.token) := by
  induction done, position, t using tokensFrom.induct with
  | case1 done position =>
    rw [tokensFrom]
    exact ⟨[], (List.append_nil _).symm, .nil⟩
  | case2 done position c t space ih =>
    rw [tokensFrom, if_pos space] at whole ⊢
    obtain ⟨located, cut, cuts⟩ := ih whole
    exact ⟨located, cut, .space space cuts⟩
  | case3 done position c t visible token length scanned broken =>
    have last := whole ⟨position, token⟩ (by
      rw [tokensFrom, if_neg visible, scanned]
      simp [broken])
    rw [broken] at last
    cases last
  | case4 done position c t visible token length scanned unbroken ih =>
    have step : tokensFrom done position (c :: t) =
        tokensFrom (⟨position, token⟩ :: done) (position + length) (t.drop (length - 1)) := by
      rw [tokensFrom, if_neg visible, scanned]
      simp only [if_neg unbroken]
    rw [step] at whole ⊢
    obtain ⟨located, cut, cuts⟩ := ih whole
    refine ⟨⟨position, token⟩ :: located, ?_, ?_⟩
    · rw [cut]
      simp
    · exact .token (by simpa using visible) scanned (by simpa using unbroken) cuts

theorem cuts_tokens {t : Text} (whole : ∀ located ∈ tokens t, located.token.isBroken = false) :
    Cuts t ((tokens t).map Located.token) := by
  obtain ⟨located, cut, cuts⟩ := cuts_of_tokensFrom whole
  rw [tokens, cut]
  exact cuts

/-- What holds of every token that is scanned holds of all tokens of a text. -/
theorem forall_mem_tokensFrom {p : Token → Prop}
    (scans : ∀ position c rest, p (scanToken position c rest).1) (done : List Located)
    (position : Nat) (t : Text) :
    ∀ located ∈ tokensFrom done position t, located ∈ done ∨ p located.token := by
  induction done, position, t using tokensFrom.induct with
  | case1 done position =>
    intro located membership
    rw [tokensFrom, List.mem_reverse] at membership
    exact .inl membership
  | case2 done position c rest space ih =>
    rw [tokensFrom, if_pos space]
    exact ih
  | case3 done position c rest visible token length scanned broken =>
    have fresh := scans position c rest
    rw [scanned] at fresh
    intro located membership
    rw [tokensFrom, if_neg visible, scanned] at membership
    simp only [broken, if_true, List.mem_reverse] at membership
    rcases List.mem_cons.mp membership with rfl | early
    · exact .inr fresh
    · exact .inl early
  | case4 done position c rest visible token length scanned whole ih =>
    have fresh := scans position c rest
    rw [scanned] at fresh
    intro located membership
    rw [tokensFrom, if_neg visible, scanned] at membership
    simp only [whole] at membership
    rcases ih located membership with found | later
    · rcases List.mem_cons.mp found with rfl | early
      · exact .inr fresh
      · exact .inl early
    · exact .inr later

end EventScript.Json
