import EventScript.Proofs.Json.Reading

/-!
# Levels run out

Reading stops at the first bracket that opens a list or a dictionary while all levels are open. The
text up to there may be the beginning of any text at all, and every bound on the levels is exceeded
by some text.
-/

namespace EventScript.Json

open Machine

variable {levels : Option Nat} {t : Text} {container : Container}

/-- What a token opens where a value is awaited. -/
def Token.opens? : Token → Option Container
  | .openList => some .list
  | .openDict => some .dict
  | _ => none

namespace Machine

variable {m between : Machine} {located : Located}

/-- The token would open one level too many. -/
inductive Overflows (levels : Option Nat) : Machine → Token → Container → Prop
  | value {outer : List Frame} {token : Token} {container : Container}
    (opens : token.opens? = some container) (full : allows levels (outer.length + 1) = false) :
    Overflows levels ⟨outer, .value⟩ token container
  | firstItem {outer : List Frame} {token : Token} {container : Container}
    (opens : token.opens? = some container) (full : allows levels (outer.length + 2) = false) :
    Overflows levels ⟨outer, .firstItem⟩ token container

theorem descend_eq_nested_iff {outer : List Frame} {opened : Container} {inside : Stage} :
    descend levels outer opened inside = .error (.nested container) ↔
      allows levels (outer.length + 1) = false ∧ opened = container := by
  unfold descend
  split
  · next room => simp [room]
  · next full => simp [full]

theorem takeValue_eq_nested_iff {outer : List Frame} :
    takeValue levels outer located = .error (.nested container) ↔
      located.token.opens? = some container ∧ allows levels (outer.length + 1) = false := by
  obtain ⟨position, token⟩ := located
  cases token with
  | openList | openDict =>
    rw [takeValue, descend_eq_nested_iff, and_comm, Token.opens?, Option.some.injEq]
  | _ => simp [takeValue, Token.opens?]

theorem step_eq_nested_iff : m.step levels located = .error (.nested container) ↔
    Overflows levels m located.token container := by
  obtain ⟨position, token⟩ := located
  obtain ⟨outer, stage⟩ := m
  constructor
  · intro stopped
    cases stage with
    | value =>
      obtain ⟨opens, full⟩ := takeValue_eq_nested_iff.mp stopped
      exact .value opens full
    | firstItem =>
      by_cases closes : token = .closeList
      · rw [closes] at stopped
        cases stopped
      · rw [step_firstItem_eq closes] at stopped
        obtain ⟨opens, full⟩ := takeValue_eq_nested_iff.mp stopped
        exact .firstItem opens full
    | key members mayClose =>
      cases mayClose
      all_goals cases token
      all_goals cases stopped
    | colon | afterItem | afterMember | complete =>
      cases token
      all_goals cases stopped
  · intro overflows
    cases overflows with
    | value opens full => exact takeValue_eq_nested_iff.mpr ⟨opens, full⟩
    | firstItem opens full =>
      have other : token ≠ .closeList := by
        rintro rfl
        cases opens
      rw [step_firstItem_eq other]
      exact takeValue_eq_nested_iff.mpr ⟨opens, full⟩

theorem Overflows.isBroken_eq {token : Token} (overflows : Overflows levels m token container) :
    token.isBroken = false := by
  cases overflows with
  | value opens | firstItem opens =>
    cases token with
    | openList | openDict => rfl
    | _ => cases opens

/-- A run is stopped by the first token that would open one level too many. -/
theorem run_eq_nested_iff {tokens : List Located} :
    m.run levels tokens = .error (.nested container) ↔
      ∃ front located rest between, tokens = front ++ located :: rest ∧
        m.run levels front = .ok between ∧ Overflows levels between located.token container := by
  constructor
  · intro stopped
    induction tokens generalizing m with
    | nil => cases stopped
    | cons first tokens ih =>
      rw [run] at stopped
      cases stepped : m.step levels first with
      | error stop =>
        rw [stepped] at stopped
        cases stopped
        exact ⟨[], first, tokens, m, rfl, rfl, step_eq_nested_iff.mp stepped⟩
      | ok after =>
        rw [stepped] at stopped
        obtain ⟨front, located, rest, between, rfl, ran, overflows⟩ := ih stopped
        exact ⟨first :: front, located, rest, between, rfl,
          run_cons_eq_ok_iff.mpr ⟨after, stepped, ran⟩, overflows⟩
  · rintro ⟨front, located, rest, between, rfl, ran, overflows⟩
    rw [run_append, ran]
    simp only [Except.bind, run, step_eq_nested_iff.mpr overflows]

end Machine

theorem read_eq_nested_iff : read levels t = .error (.nested container) ↔
    startsWithMark t = false ∧ start.run levels (tokens t) = .error (.nested container) := by
  unfold read
  cases startsWithMark t with
  | true => simp
  | false =>
    simp only [Bool.false_eq_true, if_false, true_and]
    cases start.run levels (tokens t) with
    | error stop => simp
    | ok m =>
      obtain ⟨outer, stage⟩ := m
      cases stage <;> simp [finish]

/-! ## Too many brackets -/

/-- What has been found stays in front of what is found later. -/
theorem exists_tokensFrom_eq_append (done : List Located) (position : Nat) (t : Text) :
    ∃ more, tokensFrom done position t = done.reverse ++ more := by
  induction done, position, t using tokensFrom.induct with
  | case1 done position => exact ⟨[], by rw [tokensFrom, List.append_nil]⟩
  | case2 done position c rest space ih => rwa [tokensFrom, if_pos space]
  | case3 done position c rest visible token length scanned broken =>
    refine ⟨[⟨position, token⟩], ?_⟩
    rw [tokensFrom, if_neg visible, scanned]
    simp only [broken, if_true, List.reverse_cons]
  | case4 done position c rest visible token length scanned whole ih =>
    obtain ⟨more, found⟩ := ih
    refine ⟨⟨position, token⟩ :: more, ?_⟩
    rw [tokensFrom, if_neg visible, scanned]
    simp only [whole, Bool.false_eq_true, if_false, found, List.reverse_cons, List.append_assoc,
      List.singleton_append]

/-- As many opening brackets as there are levels are taken. -/
theorem reads_openings {most count : Nat} (within : count < most) :
    Reads (some most) (List.replicate (count + 1) (CodePoint.ofChar '[')) start
      ⟨List.replicate count (.list []), .firstItem⟩ := by
  induction count with
  | zero => exact reads_openList (decide_eq_true within)
  | succ count ih =>
    have room : allows (some most) ((Frame.list [] :: List.replicate count (.list [])).length + 1) =
        true := by
      apply decide_eq_true
      rw [List.length_cons, List.length_replicate]
      omega
    have next := (reads_openList room).firstItem nofun
    rw [List.replicate_succ' (n := count + 1)]
    exact (ih (by omega)).append next

/-- One opening bracket more than there are levels is too many, whatever follows. -/
theorem read_openings (most : Nat) (rest : Text) :
    read (some most) (List.replicate (most + 1) (CodePoint.ofChar '[') ++ rest) =
      .error (.nested .list) := by
  refine read_eq_nested_iff.mpr ⟨rfl, run_eq_nested_iff.mpr ?_⟩
  have bracket (done : List Located) (position : Nat) :
      ∃ more, tokensFrom done position (CodePoint.ofChar '[' :: rest) =
        done.reverse ++ ⟨position, .openList⟩ :: more := by
    obtain ⟨more, found⟩ := exists_tokensFrom_eq_append (⟨position, .openList⟩ :: done)
      (position + 1) rest
    refine ⟨more, ?_⟩
    rw [tokensFrom, if_neg (by decide)]
    exact found.trans (by rw [List.reverse_cons, List.append_assoc]; rfl)
  cases most with
  | zero =>
    obtain ⟨more, found⟩ := bracket [] 0
    exact ⟨[], ⟨0, .openList⟩, more, start, found, rfl, .value rfl rfl⟩
  | succ count =>
    obtain ⟨front, cut, ran⟩ := reads_openings (Nat.lt_succ_self count) [] 0
      (CodePoint.ofChar '[' :: rest)
    obtain ⟨more, found⟩ := bracket (front.reverse ++ []) (0 + (count + 1))
    refine ⟨front, ⟨0 + (count + 1), .openList⟩, more, _, ?_, ran, .firstItem rfl ?_⟩
    · have whole : List.replicate (count + 1 + 1) (CodePoint.ofChar '[') ++ rest =
          List.replicate (count + 1) (CodePoint.ofChar '[') ++ CodePoint.ofChar '[' :: rest := by
        rw [List.replicate_succ', List.append_assoc]
        rfl
      rw [tokens, whole, cut, List.length_replicate, found]
      simp
    · apply decide_eq_false
      simp

end EventScript.Json
