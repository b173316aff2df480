import EventScript.Proofs.Json.Reading
import EventScript.Proofs.Json.Tokens

/-!
# Values in their places

A text that is read as a value by itself is read as this value inside a list or a dictionary as
well: before a mark it has the same tokens, and the machine never looks at the frames around what
it is reading. It only takes one level more for each of them.
-/

namespace EventScript.Json

open Machine

variable {levels : Option Nat} {m before between after : Machine} {outer : List Frame}
  {mark : CodePoint} {t key : Text}
  {v : Value}

namespace Machine

/-! ## Frames around a machine -/

/-- The machine with further frames around what it has open; what it has completed is delivered. -/
def under (outer : List Frame) (m : Machine) : Machine :=
  match m.stage with
  | .complete v => deliver outer v
  | stage => ⟨m.outer ++ outer, stage⟩

theorem under_deliver (inner outer : List Frame) (v : Value) :
    (deliver inner v).under outer = deliver (inner ++ outer) v := by
  rcases inner with - | ⟨- | -, inner⟩ <;> rfl

theorem allows_under {inner : List Frame} (room : allows levels (inner.length + 1) = true)
    (outer : List Frame) :
    allows (levels.map (· + outer.length)) ((inner ++ outer).length + 1) = true := by
  cases levels with
  | none => rfl
  | some most =>
    have within : inner.length + 1 ≤ most := of_decide_eq_true room
    apply decide_eq_true
    change (inner ++ outer).length + 1 ≤ most + outer.length
    rw [List.length_append]
    omega

theorem Takes.under {inner : List Frame} {token : Token} (takes : Takes levels inner token after)
    (outer : List Frame) :
    Takes (levels.map (· + outer.length)) (inner ++ outer) token (after.under outer) := by
  cases takes with
  | scalar v => exact under_deliver inner outer v ▸ .scalar v
  | text t => exact under_deliver inner outer (.text t) ▸ .text t
  | openList room => exact .openList (allows_under room outer)
  | openDict room => exact .openDict (allows_under room outer)

theorem Steps.under {token : Token} (steps : Steps levels m token after) (outer : List Frame) :
    Steps (levels.map (· + outer.length)) (m.under outer) token (after.under outer) := by
  cases steps with
  | value takes => exact .value (takes.under outer)
  | firstItem takes => exact .firstItem (takes.under outer)
  | nextItem => exact .nextItem
  | key key => exact .key key
  | colon => exact .colon
  | nextMember => exact .nextMember
  | closeEmptyList => exact under_deliver .. ▸ .closeEmptyList
  | closeList => exact under_deliver .. ▸ .closeList
  | closeEmptyDict => exact under_deliver .. ▸ .closeEmptyDict
  | closeDict => exact under_deliver .. ▸ .closeDict

theorem run_under {tokens : List Located} (ran : m.run levels tokens = .ok after)
    (outer : List Frame) :
    (m.under outer).run (levels.map (· + outer.length)) tokens = .ok (after.under outer) := by
  induction tokens generalizing m with
  | nil =>
    cases ran
    rfl
  | cons located tokens ih =>
    rw [run_cons_eq_ok_iff] at ran ⊢
    obtain ⟨between, stepped, ran⟩ := ran
    exact ⟨between.under outer, step_eq_ok_iff.mpr ((step_eq_ok_iff.mp stepped).under outer),
      ih ran⟩

/-! ## Texts -/

/-- What the machine completes will not be a text: it has a list or a dictionary open. -/
structure IsInside (m : Machine) : Prop where
  awaits : m.outer = [] → m.stage ≠ .value
  completes : ∀ t, m.stage ≠ .complete (.text t)

theorem isInside_deliver (noText : outer = [] → ∀ t, v ≠ .text t) :
    (deliver outer v).IsInside := by
  rcases outer with - | ⟨- | -, outer⟩
  · exact ⟨nofun, fun t same => noText rfl t (Stage.complete.inj same)⟩
  · exact ⟨nofun, nofun⟩
  · exact ⟨nofun, nofun⟩

theorem Takes.isInside {token : Token} (takes : Takes levels outer token after)
    (noText : outer = [] → ∀ t, token ≠ .text t ∧ token ≠ .scalar (.text t)) :
    after.IsInside := by
  cases takes with
  | scalar v => exact isInside_deliver fun bare t same => (noText bare t).2 (same ▸ rfl)
  | text t => exact isInside_deliver fun bare => absurd rfl (noText bare t).1
  | openList | openDict => exact ⟨nofun, nofun⟩

theorem Steps.isInside {token : Token} (steps : Steps levels m token after) (inside : m.IsInside) :
    after.IsInside := by
  cases steps with
  | value takes => exact takes.isInside fun bare => absurd rfl (inside.awaits bare)
  | firstItem takes => exact takes.isInside nofun
  | closeEmptyList | closeList | closeEmptyDict | closeDict =>
    exact isInside_deliver fun _ => nofun
  | nextItem | key | colon | nextMember => exact ⟨nofun, nofun⟩

theorem isInside_of_run {tokens : List Located} (ran : m.run levels tokens = .ok after)
    (inside : m.IsInside) : after.IsInside :=
  invariant_of_run (fun _ _ _ _ steps inside => steps.isInside inside) ran inside

end Machine

/-- Neither a text nor made of other values. -/
def IsAtom : Value → Prop
  | .null | .bool _ | .int _ | .double _ => True
  | .text _ | .list _ | .dict _ => False

theorem isAtom_of_toValue {literal : NumberLiteral} (made : literal.toValue = .ok v) :
    IsAtom v := by
  unfold NumberLiteral.toValue at made
  split at made
  · split at made
    · cases made
    · cases made
      trivial
  · cases made
    trivial

/-- What is scanned as a scalar is an atom. -/
theorem isAtom_of_scanToken (position : Nat) (c : CodePoint) (rest : Text) :
    ∀ v, (scanToken position c rest).1 = .scalar v → IsAtom v := by
  unfold scanToken
  repeat' split
  all_goals intro v same
  all_goals cases same
  · next word found =>
    have atoms : ∀ entry ∈ words, IsAtom entry.2 := by
      simp only [words, List.forall_mem_cons, IsAtom]
      exact ⟨trivial, trivial, trivial, trivial, trivial, trivial, nofun⟩
    exact atoms _ (List.mem_of_find?_eq_some found)
  · next made => exact isAtom_of_toValue made

theorem isAtom_of_mem_tokens {located : Located} (listed : located ∈ tokens t)
    (scalar : located.token = .scalar v) : IsAtom v := by
  have scanned := forall_mem_tokensFrom (p := fun token => ∀ v, token = .scalar v → IsAtom v)
    isAtom_of_scanToken [] 0 t located listed
  exact scanned.resolve_left List.not_mem_nil v scalar

/-- A text that is read by itself is a single token. -/
theorem exists_tokens_eq_of_read_text (done : read levels t = .ok (.text key)) :
    ∃ position, tokens t = [⟨position, .text key⟩] := by
  obtain ⟨-, m, ran, complete⟩ := read_eq_ok_iff.mp done
  have noScalar : ∀ located ∈ tokens t, ∀ u, located.token ≠ .scalar (.text u) :=
    fun _ listed _ scalar => isAtom_of_mem_tokens listed scalar
  generalize tokens t = cut at ran noScalar ⊢
  cases cut with
  | nil =>
    cases ran
    cases complete
  | cons first rest =>
    obtain ⟨position, token⟩ := first
    obtain ⟨between, stepped, ran⟩ := run_cons_eq_ok_iff.mp ran
    have steps := step_eq_ok_iff.mp stepped
    by_cases text : ∃ u, token = .text u
    · obtain ⟨u, rfl⟩ := text
      cases stepped
      cases rest with
      | nil =>
        cases ran
        cases complete
        exact ⟨position, rfl⟩
      | cons second rest =>
        obtain ⟨between, stepped, -⟩ := run_cons_eq_ok_iff.mp ran
        have more : Steps levels ⟨[], .complete (.text u)⟩ second.token between :=
          step_eq_ok_iff.mp stepped
        cases more
    · cases steps with
      | value takes =>
        have inside := isInside_of_run ran <| takes.isInside fun _ u =>
          ⟨fun same => text ⟨u, same⟩, noScalar _ List.mem_cons_self u⟩
        exact absurd complete (inside.completes key)

/-! ## Values before a mark -/

/-- Before this mark, reading the text takes the machine from one state to another, whatever else
stands around it. -/
def ReadsBefore (levels : Option Nat) (mark : CodePoint) (t : Text) (before after : Machine) :
    Prop :=
  ∀ (done : List Located) (position : Nat) (rest : Text), ∃ located,
    tokensFrom done position (t ++ mark :: rest) =
        tokensFrom (located.reverse ++ done) (position + t.length) (mark :: rest) ∧
      before.run levels located = .ok after

theorem ReadsBefore.append_mark (first : ReadsBefore levels mark t before between)
    (second : Reads levels [mark] between after) : Reads levels (t ++ [mark]) before after := by
  intro done position rest
  obtain ⟨front, cutFront, ranFront⟩ := first done position rest
  obtain ⟨back, cutBack, ranBack⟩ := second (front.reverse ++ done) (position + t.length) rest
  refine ⟨front ++ back, ?_, ?_⟩
  · rw [List.append_assoc, List.singleton_append, cutFront, ← List.singleton_append, cutBack]
    simp only [List.reverse_append, List.append_assoc, List.length_append, Nat.add_assoc]
  · rw [run_append, ranFront]
    exact ranBack

/-- A run that takes all tokens of a text takes them before a mark as well. -/
theorem readsBefore_of_run (ends : endsToken mark = true)
    (ran : m.run levels (tokens t) = .ok after) :
    ReadsBefore levels mark t m after := by
  intro done position rest
  have ended : ∀ c ∈ (mark :: rest).head?, endsToken c = true := by
    rintro c ⟨⟩
    exact ends
  obtain ⟨located, same, further⟩ :=
    (cuts_tokens (isBroken_of_run ran)).exists_tokensFrom_append ended done position
  exact ⟨located, further, run_of_map_token_eq same ran⟩

/-- A value that is read by itself is read before a mark, wherever a value is awaited. -/
theorem readsBefore_of_read (ends : endsToken mark = true) (done : read levels t = .ok v)
    (outer : List Frame) :
    ReadsBefore (levels.map (· + outer.length)) mark t ⟨outer, .value⟩ (deliver outer v) := by
  obtain ⟨-, m, ran, complete⟩ := read_eq_ok_iff.mp done
  have lifted := run_under ran outer
  rw [show m.under outer = deliver outer v by rw [under, complete]] at lifted
  exact readsBefore_of_run ends lifted

/-- A text that is read by itself is read as a key before a colon, however many levels are left. -/
theorem readsBefore_key (done : read levels t = .ok (.text key)) (others : Option Nat)
    {members : List (Text × Value)} {mayClose : Bool} :
    ReadsBefore others ':' t ⟨outer, .key members mayClose⟩ ⟨outer, .colon members key⟩ := by
  obtain ⟨position, single⟩ := exists_tokens_eq_of_read_text done
  apply readsBefore_of_run rfl
  rw [single]
  rfl

end EventScript.Json
