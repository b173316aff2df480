import EventScript.Proofs.Json.Reading
import EventScript.Proofs.Json.Tokens
import EventScript.Proofs.Number.Chunks
import EventScript.Proofs.Number.Written
import EventScript.Proofs.Value

/-!
# Integers of a JSON text

Every integer in a value that is read, however deep, was loaded from a literal. The scanner makes
integers from literals alone, and the machine only moves the values of its tokens about.
-/

namespace EventScript.Json

open Value

/-- The integer of a literal in a text. -/
def IsLoaded (n : Int) : Prop :=
  ∃ negative t m, Numeral.Denotes 10 t m ∧
    integer (NumberLiteral.integerText ⟨negative, t, none, none⟩) = .ok n

/-- Short literals have few digits beside their sign, and long ones are wrapped to fewer. -/
theorem IsLoaded.natAbs_lt {n : Int} (loaded : IsLoaded n) :
    n.natAbs < 10 ^ (exactLimit - if n < 0 then 1 else 0) := by
  obtain ⟨negative, t, m, denotes, made⟩ := loaded
  obtain ⟨sign, allowed, literal⟩ := exists_integerText_eq negative t
  rw [literal, integer_eq denotes allowed] at made
  cases made
  split
  · have bounds := Word.wrap_mem (Numeral.signed negative m)
    have few (digits : Nat) (many : 20 ≤ digits) : 2 ^ 64 ≤ 10 ^ digits :=
      Nat.le_trans (by decide : 2 ^ 64 ≤ 10 ^ 20) (Nat.pow_le_pow_right (by decide) many)
    have enough : 20 ≤ exactLimit - if Word.wrap (Numeral.signed negative m) < 0 then 1 else 0 := by
      unfold exactLimit
      split <;> decide
    have room := few _ enough
    unfold Word.least Word.greatest at bounds
    omega
  · next short =>
    rw [List.length_append] at short
    have digits : m < 10 ^ t.length := denotes.lt_pow (by decide)
    have size : (Numeral.signed negative m).natAbs = m := by
      cases negative <;> simp [Numeral.signed]
    have signed : (if Numeral.signed negative m < 0 then 1 else 0) ≤ sign.length := by
      have positive : ¬Numeral.signed false m < 0 := by simp [Numeral.signed]
      rcases Numeral.mem_signs_cases allowed with ⟨rfl, rfl⟩ | ⟨rfl, rfl⟩ | ⟨rfl, rfl⟩
      · split <;> decide
      · exact (if_neg positive).trans_le (Nat.zero_le _)
      · exact (if_neg positive).trans_le (Nat.zero_le _)
    rw [size]
    exact Nat.lt_of_lt_of_le digits (Nat.pow_le_pow_right (by decide) (by omega))

theorem IsLoaded.isWritable {n : Int} (loaded : IsLoaded n) : Numeral.isWritable n = true := by
  have few : exactLimit - (if n < 0 then 1 else 0) ≤ Numeral.conversionLimit :=
    Nat.le_trans (Nat.sub_le _ _) (by decide)
  exact Numeral.isWritable_of_lt_pow (Nat.le_refl 10) few loaded.natAbs_lt

/-- Written out again, an integer that was loaded is no longer than the limit up to which literals
are loaded exactly. -/
theorem IsLoaded.length_write_le {n : Int} (loaded : IsLoaded n) :
    (Numeral.write n).length ≤ exactLimit := by
  have positive : 0 < exactLimit - if n < 0 then 1 else 0 := by
    unfold exactLimit
    split <;> decide
  have bound := Numeral.length_write_le positive loaded.natAbs_lt
  omega

/-! ## Scanning -/

theorem exists_denotes_of_scanWhole? {t whole rest : Text}
    (scanned : NumberLiteral.scanWhole? t = some (whole, rest)) :
    ∃ m, Numeral.Denotes 10 whole m := by
  unfold NumberLiteral.scanWhole? at scanned
  split at scanned
  · cases scanned
  · next c others =>
    split at scanned
    · next zero =>
      cases scanned
      apply Numeral.exists_denotes (List.cons_ne_nil _ _)
      rw [zero]
      decide
    · split at scanned
      · next digit =>
        cases scanned
        apply Numeral.exists_denotes (List.cons_ne_nil _ _)
        intro d membership
        rcases List.mem_cons.mp membership with rfl | later
        · exact digit
        · exact List.all_eq_true.mp List.all_takeWhile d later
      · cases scanned

theorem exists_denotes_of_scan? {t : Text} {literal : NumberLiteral}
    (scanned : NumberLiteral.scan? t = some literal) :
    ∃ m, Numeral.Denotes 10 literal.whole m := by
  simp only [NumberLiteral.scan?] at scanned
  split at scanned
  · cases scanned
  · next whole rest found =>
    cases scanned
    exact exists_denotes_of_scanWhole? found

theorem isLoaded_of_toValue {t : Text} {literal : NumberLiteral} {v : Value}
    (scanned : NumberLiteral.scan? t = some literal) (made : literal.toValue = .ok v) :
    ∀ n ∈ v.integers, IsLoaded n := by
  obtain ⟨m, denotes⟩ := exists_denotes_of_scan? scanned
  unfold NumberLiteral.toValue at made
  split at made
  · split at made
    · cases made
    · next i loaded =>
      cases made
      intro n inside
      rw [List.mem_singleton.mp inside]
      exact ⟨literal.negative, literal.whole, m, denotes, loaded⟩
  · cases made
    intro n nothing
    exact absurd nothing List.not_mem_nil

/-- The integers that a token brings. -/
def Token.integers : Token → List Int
  | .scalar v => v.integers
  | _ => []

theorem isLoaded_of_scanToken (position : Nat) (c : CodePoint) (rest : Text) :
    ∀ n ∈ (scanToken position c rest).1.integers, IsLoaded n := by
  unfold scanToken
  repeat' split
  -- Marks, texts and what is no token bring nothing.
  all_goals try exact fun _ inside => absurd inside List.not_mem_nil
  · next word v found =>
    have wordless : ∀ entry ∈ words, entry.2.integers = [] := by decide
    intro n inside
    rw [Token.integers, wordless _ (List.mem_of_find?_eq_some found)] at inside
    cases inside
  · next literal scanned _ v made => exact isLoaded_of_toValue scanned made

/-! ## Reading -/

def Frame.integers : Frame → List Int
  | .list items => integersOfItems items
  | .dict members _ => integersOfMembers members

def Stage.integers : Stage → List Int
  | .key members _ | .colon members _ | .afterMember members => integersOfMembers members
  | .afterItem items => integersOfItems items
  | .complete v => v.integers
  | .value | .firstItem => []

/-- The integers that the machine holds. -/
def Machine.integers (m : Machine) : List Int :=
  m.stage.integers ++ m.outer.flatMap Frame.integers

namespace Machine

variable {levels : Option Nat} {n : Int} {m after : Machine} {outer : List Frame}

theorem mem_integers_deliver {v : Value} (inside : n ∈ (deliver outer v).integers) :
    n ∈ v.integers ∨ n ∈ outer.flatMap Frame.integers := by
  cases outer with
  | nil => simpa [deliver, Machine.integers, Stage.integers] using inside
  | cons frame outer =>
    cases frame with
    | list items =>
      simpa [deliver, Machine.integers, Stage.integers, Frame.integers, integersOfItems, or_assoc]
        using inside
    | dict members key =>
      simpa [deliver, Machine.integers, Stage.integers, Frame.integers, integersOfMembers,
        or_assoc] using inside

theorem Takes.mem_integers {token : Token} (takes : Takes levels outer token after)
    (inside : n ∈ after.integers) :
    n ∈ outer.flatMap Frame.integers ∨ n ∈ token.integers := by
  cases takes with
  | scalar v => exact (mem_integers_deliver inside).symm
  | text t =>
    rcases mem_integers_deliver inside with nothing | old
    · cases nothing
    · exact .inl old
  | openList _ | openDict _ => exact .inl inside

/-- What closes is delivered to the frame around it. -/
theorem mem_integers_close {stage : Stage} {v : Value}
    (closed : ∀ n ∈ v.integers, n ∈ stage.integers) (inside : n ∈ (deliver outer v).integers) :
    n ∈ Machine.integers ⟨outer, stage⟩ := by
  rcases mem_integers_deliver inside with new | old
  · exact List.mem_append_left _ (closed n new)
  · exact List.mem_append_right _ old

theorem mem_integers_list_reverse {items : List Value} :
    ∀ n ∈ (Value.list items.reverse).integers, n ∈ integersOfItems items := by
  intro n inside
  obtain ⟨v, listed, held⟩ := mem_integersOfItems_iff.mp inside
  exact mem_integersOfItems_iff.mpr ⟨v, List.mem_reverse.mp listed, held⟩

theorem mem_integers_ofMembers_reverse {members : List (Text × Value)} :
    ∀ n ∈ (ofMembers members.reverse).integers, n ∈ integersOfMembers members := by
  intro n inside
  obtain ⟨member, listed, held⟩ := mem_integersOfMembers_iff.mp (mem_integers_ofMembers inside)
  exact mem_integersOfMembers_iff.mpr ⟨member, List.mem_reverse.mp listed, held⟩

/-- A step brings in no integers but those of its token. -/
theorem Steps.mem_integers {token : Token} (steps : Steps levels m token after)
    (inside : n ∈ after.integers) : n ∈ m.integers ∨ n ∈ token.integers := by
  cases steps with
  | value takes | firstItem takes =>
    rcases takes.mem_integers inside with old | new
    · exact .inl (List.mem_append_right _ old)
    · exact .inr new
  | closeEmptyList =>
    exact .inl (mem_integers_close (fun _ nothing => absurd nothing List.not_mem_nil) inside)
  | closeList => exact .inl (mem_integers_close mem_integers_list_reverse inside)
  | closeEmptyDict | closeDict =>
    exact .inl (mem_integers_close mem_integers_ofMembers_reverse inside)
  | key | colon | nextItem | nextMember => exact .inl inside

theorem mem_integers_run {tokens : List Located} (ran : m.run levels tokens = .ok after)
    (inside : n ∈ after.integers) :
    n ∈ m.integers ∨ ∃ located ∈ tokens, n ∈ located.token.integers := by
  apply invariant_of_run
    (p := fun between => n ∈ between.integers →
      n ∈ m.integers ∨ ∃ located ∈ tokens, n ∈ located.token.integers) ?_ ran .inl inside
  intro before between located listed steps early inside
  rcases steps.mem_integers inside with old | new
  · exact early old
  · exact .inr ⟨located, listed, new⟩

end Machine

/-- All integers in a value that is read were loaded from literals. -/
theorem isLoaded_of_read {levels : Option Nat} {t : Text} {v : Value}
    (done : read levels t = .ok v) :
    ∀ n ∈ v.integers, IsLoaded n := by
  intro n inside
  obtain ⟨-, m, ran, complete⟩ := read_eq_ok_iff.mp done
  have held : n ∈ m.integers := by
    rw [Machine.integers, complete]
    exact List.mem_append_left _ inside
  rcases Machine.mem_integers_run ran held with nothing | ⟨located, listed, new⟩
  · cases nothing
  · rcases forall_mem_tokensFrom (p := fun token => ∀ n ∈ token.integers, IsLoaded n)
      isLoaded_of_scanToken [] 0 t located listed with none | loaded
    · cases none
    · exact loaded n new

end EventScript.Json
