import EventScript.Proofs.Number.Chunks
import EventScript.Proofs.Number.Double
import EventScript.Proofs.Value
import EventScript.Row.Timer

/-!
# The grammar of timers

A cell stands for a number if it is an integer, a double that is one, or a text that spells one in
decimal or in a base it names. Each cell that does gives a timer, and every other is refused.
-/

namespace EventScript.Row

open Numeral

variable {t sign digits : Text} {negative : Bool} {base n : Nat} {letter c : CodePoint}
  {number k i : Int} {cell : Value}

/-! ## Decimals -/

theorem isDecimal_append (denotes : Denotes 10 t n) (allowed : sign ∈ signs negative) :
    isDecimal (sign ++ t) = true := by
  have digits : (t ≠ [] && t.all (·.isDigit)) = true := by
    simpa [denotes.ne_nil] using denotes.isDigit
  rcases mem_signs_cases allowed with ⟨rfl, -⟩ | ⟨rfl, -⟩ | ⟨rfl, -⟩
  · exact digits
  · obtain ⟨c, rest, rfl⟩ := List.exists_cons_of_ne_nil denotes.ne_nil
    have unsigned := not_isSign_of_isDigit (denotes.isDigit c List.mem_cons_self)
    rw [List.nil_append, isDecimal]
    simp only [if_neg unsigned]
    exact digits
  · exact digits

theorem exists_denotes_of_isDecimal (decimal : isDecimal t = true) :
    ∃ negative, ∃ sign ∈ signs negative, ∃ digits n, t = sign ++ digits ∧ Denotes 10 digits n := by
  simp only [isDecimal, Bool.and_eq_true, decide_eq_true_eq] at decimal
  obtain ⟨nonempty, digits⟩ := decimal
  obtain ⟨n, denotes⟩ := exists_denotes nonempty (List.all_eq_true.mp digits)
  cases t with
  | nil => exact absurd rfl nonempty
  | cons c rest =>
    simp only at denotes
    split at denotes
    · next signed =>
      rcases signed with rfl | rfl
      · exact ⟨false, "+", by simp [signs], rest, n, rfl, denotes⟩
      · exact ⟨true, "-", by simp [signs], rest, n, rfl, denotes⟩
    · exact ⟨false, [], by simp [signs], c :: rest, n, rfl, denotes⟩

/-! ## Other bases -/

/-- The letters that announce a base. -/
def radixes : List (CodePoint × Nat) :=
  [('x', 16), ('X', 16), ('o', 8), ('O', 8), ('b', 2), ('B', 2)]

theorem base?_eq_some_iff : base? c = some base ↔ (c, base) ∈ radixes := by
  constructor
  · intro announced
    unfold base? at announced
    split at announced
    · next letter => rcases letter with rfl | rfl <;> cases announced <;> decide
    · split at announced
      · next letter => rcases letter with rfl | rfl <;> cases announced <;> decide
      · split at announced
        · next letter => rcases letter with rfl | rfl <;> cases announced <;> decide
        · cases announced
  · intro listed
    have letters : ∀ radix ∈ radixes, base? radix.1 = some radix.2 := by decide
    exact letters _ listed

theorem digitBelow?_eq_some_iff {d : Nat} :
    digitBelow? base c = some d ↔ c.digitValue? = some d ∧ d < base := by
  simp [digitBelow?, Option.filter_eq_some_iff]

/-- What is read so far is shifted by as many places as there are digits to come. -/
theorem foldlM_digitBelow?_eq_some_iff {start : Nat} :
    t.foldlM (fun n c => (digitBelow? base c).map (n * base + ·)) start = some n ↔
      ∃ digits, HasDigits base t digits ∧
        start * base ^ digits.length + valueOf base digits = n := by
  induction t generalizing start with
  | nil => simp [HasDigits, valueOf]
  | cons c rest ih =>
    have shift (d : Nat) (others : List Nat) :
        (start * base + d) * base ^ others.length + valueOf base others =
          start * base ^ (d :: others).length + valueOf base (d :: others) := by
      rw [valueOf_cons, List.length_cons]
      ring
    simp only [List.foldlM_cons, Option.bind_eq_bind, Option.bind_eq_some_iff,
      Option.map_eq_some_iff, digitBelow?_eq_some_iff, ih, List.forall₂_cons_left_iff]
    constructor
    · rintro ⟨_, ⟨d, first, rfl⟩, others, has, value⟩
      exact ⟨d :: others, ⟨d, others, first, has, rfl⟩, (shift d others).symm.trans value⟩
    · rintro ⟨_, ⟨d, others, first, has, rfl⟩, value⟩
      exact ⟨_, ⟨d, first, rfl⟩, others, has, (shift d others).trans value⟩

theorem ofBase?_eq_some_iff : ofBase? base t = some n ↔ Denotes base t n := by
  rw [ofBase?, Option.ite_none_left_eq_some, foldlM_digitBelow?_eq_some_iff]
  simp only [Nat.zero_mul, Nat.zero_add]
  exact ⟨fun read => ⟨read.1, read.2⟩, fun denotes => ⟨denotes.ne_nil, denotes.value⟩⟩

theorem ofPrefixed?_eq_some_iff :
    ofPrefixed? t = some n ↔ ∃ letter base digits, t = CodePoint.ofChar '0' :: letter :: digits ∧
      (letter, base) ∈ radixes ∧ Denotes base digits n := by
  constructor
  · intro read
    unfold ofPrefixed? at read
    split at read
    · next c letter digits =>
      split at read
      · next zero =>
        obtain ⟨base, announced, value⟩ := Option.bind_eq_some_iff.mp read
        rw [zero]
        exact ⟨letter, base, digits, rfl, base?_eq_some_iff.mp announced,
          ofBase?_eq_some_iff.mp value⟩
      · cases read
    · cases read
  · rintro ⟨letter, base, digits, rfl, listed, denotes⟩
    rw [ofPrefixed?, if_pos rfl, base?_eq_some_iff.mpr listed, Option.bind_some,
      ofBase?_eq_some_iff.mpr denotes]

theorem isDecimal_prefixed (listed : (letter, base) ∈ radixes) :
    isDecimal (CodePoint.ofChar '0' :: letter :: digits) = false := by
  have noDigits : ∀ radix ∈ radixes, radix.1.isDigit = false := by decide
  have unsigned : ¬(CodePoint.ofChar '0' = CodePoint.ofChar '+' ∨
      CodePoint.ofChar '0' = CodePoint.ofChar '-') := by decide
  rw [isDecimal]
  simp only [if_neg unsigned, List.all_cons, noDigits _ listed, Bool.false_and, Bool.and_false]

/-! ## Literals -/

/-- What may stand between the blanks of a text that spells a number, and the number. -/
inductive IsLiteral : Text → Int → Prop
  | empty : IsLiteral [] 0
  | decimal {sign digits : Text} {negative : Bool} {n : Nat} (allowed : sign ∈ signs negative)
    (denotes : Denotes 10 digits n) : IsLiteral (sign ++ digits) (signed negative n)
  | prefixed {letter : CodePoint} {base : Nat} {digits : Text} {n : Nat}
    (listed : (letter, base) ∈ radixes) (denotes : Denotes base digits n) :
    IsLiteral (CodePoint.ofChar '0' :: letter :: digits) n

theorem IsLiteral.visible (literal : IsLiteral t i) : ∀ c ∈ t, 0x20 < c.val ∧ c.val < 0x7F := by
  cases literal with
  | empty => exact nofun
  | decimal allowed denotes => exact denotes.visible_append allowed
  | prefixed listed denotes =>
    have letters : ∀ radix ∈ radixes, 0x20 < radix.1.val ∧ radix.1.val < 0x7F := by decide
    rw [List.forall_mem_cons, List.forall_mem_cons]
    exact ⟨by decide, letters _ listed, denotes.visible⟩

theorem ofTimerText?_of_decimal (stripped : t.strip = sign ++ digits)
    (allowed : sign ∈ signs negative) (denotes : Denotes 10 digits n) :
    ofTimerText? t = .ok (some (Word.wrap (signed negative n))) := by
  have nonempty : sign ++ digits ≠ [] := List.append_ne_nil_of_right_ne_nil sign denotes.ne_nil
  simp only [ofTimerText?, stripped, if_neg nonempty, isDecimal_append denotes allowed, if_true,
    Word.ofDecimal_eq denotes allowed]
  rfl

theorem ofTimerText?_of_prefixed (stripped : t.strip = CodePoint.ofChar '0' :: letter :: digits)
    (listed : (letter, base) ∈ radixes) (denotes : Denotes base digits n) :
    ofTimerText? t = .ok (some (n : Int)) := by
  have value : ofPrefixed? (CodePoint.ofChar '0' :: letter :: digits) = some n :=
    ofPrefixed?_eq_some_iff.mpr ⟨letter, base, digits, rfl, listed, denotes⟩
  simp only [ofTimerText?, stripped, if_neg (List.cons_ne_nil _ _), isDecimal_prefixed listed,
    value]
  rfl

/-- A decimal is wrapped when it is read, the others only afterwards. -/
theorem IsLiteral.exists_ofTimerText?_eq {literal : Text} (spells : IsLiteral literal i)
    (stripped : t.strip = literal) :
    ∃ m, ofTimerText? t = .ok (some m) ∧ Word.wrap m = Word.wrap i := by
  cases spells with
  | empty => exact ⟨0, by simp only [ofTimerText?, stripped, if_true], rfl⟩
  | decimal allowed denotes =>
    exact ⟨_, ofTimerText?_of_decimal stripped allowed denotes, Word.wrap_wrap _⟩
  | prefixed listed denotes => exact ⟨_, ofTimerText?_of_prefixed stripped listed denotes, rfl⟩

/-- A text either spells a number or is none. -/
theorem isLiteral_or (t : Text) : (∃ i, IsLiteral t.strip i) ∨ ofTimerText? t = .ok none := by
  simp only [ofTimerText?]
  split
  · next empty =>
    rw [empty]
    exact .inl ⟨0, .empty⟩
  · split
    · next decimal =>
      obtain ⟨negative, sign, allowed, digits, n, same, denotes⟩ :=
        exists_denotes_of_isDecimal decimal
      rw [same]
      exact .inl ⟨_, .decimal allowed denotes⟩
    · cases read : ofPrefixed? t.strip with
      | none => exact .inr rfl
      | some n =>
        obtain ⟨letter, base, digits, same, listed, denotes⟩ := ofPrefixed?_eq_some_iff.mp read
        rw [same]
        exact .inl ⟨n, .prefixed listed denotes⟩

/-! ## Cells -/

/-- What a cell may be to give a timer, and the number that the timer is the word of. -/
inductive StandsFor : Value → Int → Prop
  | int {i : Int} : StandsFor (.int i) i
  | double {x : Double} {i : Int} (whole : x.value? = some (i : ℚ)) : StandsFor (.double x) i
  | text {t : Text} {i : Int} (literal : IsLiteral t.strip i) : StandsFor (.text t) i

theorem StandsFor.timer_eq (stands : StandsFor cell i) (number : Int) :
    timer number cell = .ok (Word.wrap i) := by
  cases stands with
  | int => rfl
  | double whole => simp only [timer, Double.toInt?_eq_some_iff.mpr whole]
  | text literal =>
    obtain ⟨m, read, same⟩ := literal.exists_ofTimerText?_eq rfl
    simp only [timer, read, same]

/-- A cell either stands for a number or is refused in whichever row it is. -/
theorem standsFor_or (cell : Value) :
    (∃ i, StandsFor cell i) ∨ ∀ number, timer number cell = .error (refuseTimer number cell) := by
  cases cell with
  | int i => exact .inl ⟨i, .int⟩
  | double x =>
    cases whole : x.toInt? with
    | some i => exact .inl ⟨i, .double (Double.toInt?_eq_some_iff.mp whole)⟩
    | none => exact .inr fun number => by simp only [timer, whole]
  | text t =>
    rcases isLiteral_or t with ⟨i, literal⟩ | noLiteral
    · exact .inl ⟨i, .text literal⟩
    · exact .inr fun number => by simp only [timer, noLiteral]
  | null | bool | list | dict => exact .inr fun _ => rfl

theorem timer_eq_ok_iff : timer number cell = .ok k ↔ ∃ i, StandsFor cell i ∧ k = Word.wrap i := by
  constructor
  · intro accepted
    rcases standsFor_or cell with ⟨i, stands⟩ | refused
    · rw [stands.timer_eq number] at accepted
      exact ⟨i, stands, (Except.ok.inj accepted).symm⟩
    · rw [refused number] at accepted
      cases accepted
  · rintro ⟨i, stands, rfl⟩
    exact stands.timer_eq number

theorem timer_eq_error_iff {failure : Failure} (writable : cell.HasWritableIntegers) :
    timer number cell = .error failure ↔
      (∀ i, ¬StandsFor cell i) ∧ failure = .refused (.timer number cell) := by
  rcases standsFor_or cell with ⟨i, stands⟩ | refused
  · rw [stands.timer_eq number]
    exact ⟨nofun, fun refusal => absurd stands (refusal.1 i)⟩
  · have noNumber : ∀ i, ¬StandsFor cell i := by
      intro i stands
      cases (refused number).symm.trans (stands.timer_eq number)
    rw [refused number, refuseTimer, if_pos (Value.isDisplayable_of_integers cell writable),
      Except.error.injEq]
    exact ⟨fun same => ⟨noNumber, same.symm⟩, fun refusal => refusal.2.symm⟩

/-- A cell gives a timer exactly if it stands for a number, and the timer is the word of it. Any
other cell is refused, by a refusal that shows the cell and its row. -/
theorem timer_grammar (number : Int) (cell : Value) :
    (∀ k, timer number cell = .ok k ↔ ∃ i, StandsFor cell i ∧ k = Word.wrap i) ∧
      (cell.HasWritableIntegers →
        ∀ failure, timer number cell = .error failure ↔
          (∀ i, ¬StandsFor cell i) ∧ failure = .refused (.timer number cell)) :=
  ⟨fun _ => timer_eq_ok_iff, fun writable _ => timer_eq_error_iff writable⟩

theorem timer_grammar_hexadecimal :
    Value.HasWritableIntegers (.list [.int 31]) ∧ timer 3 (.text " 0X1F\n") = .ok 31 ∧
      timer 3 (.list [.int 31]) = .error (.refused (.timer 3 (.list [.int 31]))) := by
  have writable : Value.HasWritableIntegers (.list [.int 31]) := by decide +kernel
  have denotes : Denotes 16 "1F" 31 := ⟨by decide, [1, 15], by decide, rfl⟩
  have literal : IsLiteral (Text.strip " 0X1F\n") 31 :=
    @IsLiteral.prefixed 'X' _ _ _ (by decide) denotes
  refine ⟨writable, ?_, ?_⟩
  · exact ((timer_grammar 3 (.text " 0X1F\n")).1 31).mpr ⟨31, .text literal, rfl⟩
  · exact ((timer_grammar 3 (.list [.int 31])).2 writable _).mpr ⟨nofun, rfl⟩

end EventScript.Row
