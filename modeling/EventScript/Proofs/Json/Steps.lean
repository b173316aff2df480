import EventScript.Json.Reader

/-!
# What the machine can do

The tokens that the machine takes and where they take it, apart from its complaints. Where a token
stands in the text makes no difference to this; how many levels there are makes one only to the
brackets that open another.
-/

namespace EventScript.Json

namespace Machine

/-- What a token does where a value is awaited. -/
inductive Takes (levels : Option Nat) (outer : List Frame) : Token → Machine → Prop
  | scalar (v : Value) : Takes levels outer (.scalar v) (deliver outer v)
  | text (t : Text) : Takes levels outer (.text t) (deliver outer (.text t))
  | openList (room : allows levels (outer.length + 1) = true) :
    Takes levels outer .openList ⟨outer, .firstItem⟩
  | openDict (room : allows levels (outer.length + 1) = true) :
    Takes levels outer .openDict ⟨outer, .key [] true⟩

/-- What a token does. -/
inductive Steps (levels : Option Nat) : Machine → Token → Machine → Prop
  | value {outer : List Frame} {token : Token} {after : Machine}
    (takes : Takes levels outer token after) :
    Steps levels ⟨outer, .value⟩ token after
  | firstItem {outer : List Frame} {token : Token} {after : Machine}
    (takes : Takes levels (.list [] :: outer) token after) :
    Steps levels ⟨outer, .firstItem⟩ token after
  | closeEmptyList {outer : List Frame} :
    Steps levels ⟨outer, .firstItem⟩ .closeList (deliver outer (.list []))
  | nextItem {outer : List Frame} {items : List Value} :
    Steps levels ⟨outer, .afterItem items⟩ .comma ⟨.list items :: outer, .value⟩
  | closeList {outer : List Frame} {items : List Value} :
    Steps levels ⟨outer, .afterItem items⟩ .closeList (deliver outer (.list items.reverse))
  | key {outer : List Frame} {members : List (Text × Value)} {mayClose : Bool} (key : Text) :
    Steps levels ⟨outer, .key members mayClose⟩ (.text key) ⟨outer, .colon members key⟩
  | closeEmptyDict {outer : List Frame} {members : List (Text × Value)} :
    Steps levels ⟨outer, .key members true⟩ .closeDict (deliver outer (.ofMembers members.reverse))
  | colon {outer : List Frame} {members : List (Text × Value)} {key : Text} :
    Steps levels ⟨outer, .colon members key⟩ .colon ⟨.dict members key :: outer, .value⟩
  | nextMember {outer : List Frame} {members : List (Text × Value)} :
    Steps levels ⟨outer, .afterMember members⟩ .comma ⟨outer, .key members false⟩
  | closeDict {outer : List Frame} {members : List (Text × Value)} :
    Steps levels ⟨outer, .afterMember members⟩ .closeDict
      (deliver outer (.ofMembers members.reverse))

variable {levels : Option Nat} {outer : List Frame} {m after : Machine} {located other : Located}

theorem descend_eq_ok_iff {container : Container} {inside : Stage} :
    descend levels outer container inside = .ok after ↔
      allows levels (outer.length + 1) = true ∧ after = ⟨outer, inside⟩ := by
  by_cases room : allows levels (outer.length + 1) = true
  · rw [descend, if_pos room, Except.ok.injEq, eq_comm, and_iff_right room]
  · rw [descend, if_neg room]
    exact ⟨nofun, fun both => absurd both.1 room⟩

theorem takeValue_eq_ok_iff :
    takeValue levels outer located = .ok after ↔ Takes levels outer located.token after := by
  obtain ⟨position, token⟩ := located
  constructor
  · intro taken
    cases token with
    | scalar | text =>
      cases taken
      constructor
    | openList =>
      obtain ⟨room, rfl⟩ := descend_eq_ok_iff.mp taken
      exact .openList room
    | openDict =>
      obtain ⟨room, rfl⟩ := descend_eq_ok_iff.mp taken
      exact .openDict room
    | closeList | closeDict | colon | comma | badText | badNumber | stray => cases taken
  · intro takes
    cases takes with
    | scalar | text => rfl
    | openList room | openDict room => exact descend_eq_ok_iff.mpr ⟨room, rfl⟩

/-- A list that has begun takes what does not close it as any place that awaits a value does. -/
theorem step_firstItem_eq (opens : located.token ≠ .closeList) :
    step ⟨outer, .firstItem⟩ levels located = step ⟨.list [] :: outer, .value⟩ levels located := by
  unfold step
  split <;> simp_all

theorem step_eq_ok_iff :
    m.step levels located = .ok after ↔ Steps levels m located.token after := by
  obtain ⟨position, token⟩ := located
  obtain ⟨outer, stage⟩ := m
  constructor
  · intro stepped
    cases stage with
    | value => exact .value (takeValue_eq_ok_iff.mp stepped)
    | firstItem =>
      cases token with
      | closeList =>
        cases stepped
        exact .closeEmptyList
      | _ => exact .firstItem (takeValue_eq_ok_iff.mp stepped)
    | key members mayClose =>
      cases mayClose
      all_goals cases token
      all_goals cases stepped
      all_goals constructor
    | colon | afterItem | afterMember | complete =>
      cases token
      all_goals cases stepped
      all_goals constructor
  · intro steps
    cases steps with
    | value takes => exact takeValue_eq_ok_iff.mpr takes
    | firstItem takes =>
      have taken := takeValue_eq_ok_iff.mpr takes
      cases takes <;> exact taken
    | _ => rfl

theorem Steps.isBroken_eq {token : Token} (steps : Steps levels m token after) :
    token.isBroken = false := by
  cases steps with
  | value takes | firstItem takes => cases takes <;> rfl
  | _ => rfl

/-- Where a token stands only matters for complaints. -/
theorem step_of_token_eq (same : other.token = located.token)
    (stepped : m.step levels located = .ok after) : m.step levels other = .ok after := by
  rw [step_eq_ok_iff] at stepped ⊢
  rw [same]
  exact stepped

theorem run_cons_eq_ok_iff {tokens : List Located} :
    m.run levels (located :: tokens) = .ok after ↔
      ∃ between, m.step levels located = .ok between ∧ between.run levels tokens = .ok after := by
  rw [run]
  cases m.step levels located <;> simp

/-- What every step keeps holds at the end of a run. -/
theorem invariant_of_run {p : Machine → Prop} {tokens : List Located}
    (kept : ∀ m after, ∀ located ∈ tokens, Steps levels m located.token after → p m → p after)
    (ran : m.run levels tokens = .ok after) (holds : p m) : p after := by
  induction tokens generalizing m with
  | nil =>
    cases ran
    exact holds
  | cons located tokens ih =>
    obtain ⟨between, stepped, ran⟩ := run_cons_eq_ok_iff.mp ran
    have first := kept m between located List.mem_cons_self (step_eq_ok_iff.mp stepped) holds
    exact ih (fun m after other listed => kept m after other (List.mem_cons_of_mem _ listed)) ran
      first

theorem run_of_map_token_eq {tokens others : List Located}
    (same : others.map Located.token = tokens.map Located.token)
    (ran : m.run levels tokens = .ok after) :
    m.run levels others = .ok after := by
  induction tokens generalizing m others with
  | nil =>
    rw [List.map_nil, List.map_eq_nil_iff] at same
    subst same
    exact ran
  | cons located tokens ih =>
    obtain ⟨other, others, rfl, first, rest⟩ := List.map_eq_cons_iff.mp same
    rw [run_cons_eq_ok_iff] at ran ⊢
    obtain ⟨between, stepped, ran⟩ := ran
    exact ⟨between, step_of_token_eq first stepped, ih rest ran⟩

/-- Nothing broken is taken. -/
theorem isBroken_of_run {tokens : List Located} (ran : m.run levels tokens = .ok after) :
    ∀ located ∈ tokens, located.token.isBroken = false := by
  induction tokens generalizing m with
  | nil => exact nofun
  | cons located tokens ih =>
    obtain ⟨between, stepped, ran⟩ := run_cons_eq_ok_iff.mp ran
    exact List.forall_mem_cons.mpr ⟨(step_eq_ok_iff.mp stepped).isBroken_eq, ih ran⟩

end Machine

end EventScript.Json
