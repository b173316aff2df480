import EventScript.Proofs.Json.Steps
import EventScript.Proofs.Json.Text

/-!
# Written tables are read back

A written value takes the machine from where a value is awaited to where it has been handed over,
whatever the text around it, if there are as many levels left as it is high. Lists and dictionaries
inherit this from their parts and are one level higher.
-/

namespace EventScript.Json

open Machine

/-- Reading the text takes the machine from one state to another, whatever stands around it. -/
def Reads (levels : Option Nat) (t : Text) (before after : Machine) : Prop :=
  ∀ (done : List Located) (position : Nat) (rest : Text), ∃ located,
    tokensFrom done position (t ++ rest) =
        tokensFrom (located.reverse ++ done) (position + t.length) rest ∧
      before.run levels located = .ok after

/-- Where a value is awaited, with so many levels left, the text is read as this one. -/
def IsRead (levels : Option Nat) (height : Nat) (t : Text) (v : Value) : Prop :=
  ∀ outer, allows levels (outer.length + height) = true →
    Reads levels t ⟨outer, .value⟩ (deliver outer v)

variable {levels : Option Nat} {height : Nat} {before between after : Machine} {t u : Text}
  {v : Value} {outer : List Frame}

theorem allows_of_le {depth deeper : Nat} (room : allows levels deeper = true)
    (less : depth ≤ deeper) : allows levels depth = true := by
  cases levels with
  | none => rfl
  | some most =>
    have within : deeper ≤ most := of_decide_eq_true room
    exact decide_eq_true (Nat.le_trans less within)

theorem Reads.append (first : Reads levels t before between)
    (second : Reads levels u between after) :
    Reads levels (t ++ u) before after := by
  intro done position rest
  obtain ⟨front, cutFront, ranFront⟩ := first done position (u ++ rest)
  obtain ⟨back, cutBack, ranBack⟩ := second (front.reverse ++ done) (position + t.length) rest
  refine ⟨front ++ back, ?_, ?_⟩
  · rw [List.append_assoc, cutFront, cutBack]
    simp only [List.reverse_append, List.append_assoc, List.length_append, Nat.add_assoc]
  · rw [run_append, ranFront]
    exact ranBack

theorem reads_spaces (levels : Option Nat) (machine : Machine) (blank : ∀ c ∈ t, isSpace c = true) :
    Reads levels t machine machine := by
  induction t with
  | nil => exact fun done position rest => ⟨[], rfl, rfl⟩
  | cons c t ih =>
    rw [List.forall_mem_cons] at blank
    intro done position rest
    obtain ⟨located, cut, ran⟩ := ih blank.2 done (position + 1) rest
    refine ⟨located, ?_, ran⟩
    rw [List.cons_append, tokensFrom, if_pos blank.1, cut, List.length_cons]
    congr 1
    omega

theorem reads_space (machine : Machine) : Reads levels " " machine machine :=
  reads_spaces levels machine (by decide)

/-- A mark is a token by itself. -/
theorem reads_mark {c : CodePoint} {token : Token} (visible : isSpace c = false)
    (scanned : ∀ position rest, scanToken position c rest = (token, 1))
    (steps : Steps levels before token after) : Reads levels [c] before after := by
  intro done position rest
  refine ⟨[⟨position, token⟩], ?_, ?_⟩
  · rw [List.singleton_append, tokensFrom, if_neg (by simp [visible]), scanned]
    simp only [steps.isBroken_eq]
    rfl
  · rw [run_cons_eq_ok_iff]
    exact ⟨after, step_eq_ok_iff.mpr steps, rfl⟩

section

variable {items : List Value} {members : List (Text × Value)} {key : Text} {mayClose : Bool}

theorem reads_openList (room : allows levels (outer.length + 1) = true) :
    Reads levels "[" ⟨outer, .value⟩ ⟨outer, .firstItem⟩ :=
  reads_mark rfl (fun _ _ => rfl) (.value (.openList room))

theorem reads_closeEmptyList : Reads levels "]" ⟨outer, .firstItem⟩ (deliver outer (.list [])) :=
  reads_mark rfl (fun _ _ => rfl) .closeEmptyList

theorem reads_nextItem :
    Reads levels "," ⟨outer, .afterItem items⟩ ⟨.list items :: outer, .value⟩ :=
  reads_mark rfl (fun _ _ => rfl) .nextItem

theorem reads_closeList :
    Reads levels "]" ⟨outer, .afterItem items⟩ (deliver outer (.list items.reverse)) :=
  reads_mark rfl (fun _ _ => rfl) .closeList

theorem reads_openDict (room : allows levels (outer.length + 1) = true) :
    Reads levels "\x7b" ⟨outer, .value⟩ ⟨outer, .key [] true⟩ :=
  reads_mark rfl (fun _ _ => rfl) (.value (.openDict room))

theorem reads_closeEmptyDict :
    Reads levels "\x7d" ⟨outer, .key members true⟩ (deliver outer (.ofMembers members.reverse)) :=
  reads_mark rfl (fun _ _ => rfl) .closeEmptyDict

theorem reads_colon :
    Reads levels ":" ⟨outer, .colon members key⟩ ⟨.dict members key :: outer, .value⟩ :=
  reads_mark rfl (fun _ _ => rfl) .colon

theorem reads_nextMember :
    Reads levels "," ⟨outer, .afterMember members⟩ ⟨outer, .key members false⟩ :=
  reads_mark rfl (fun _ _ => rfl) .nextMember

theorem reads_closeDict :
    Reads levels "\x7d" ⟨outer, .afterMember members⟩
      (deliver outer (.ofMembers members.reverse)) :=
  reads_mark rfl (fun _ _ => rfl) .closeDict

end

theorem scanToken_writeText (t : Text) (position : Nat) (rest : Text) :
    scanToken position (CodePoint.ofChar '"')
        (t.flatMap writeChar ++ CodePoint.ofChar '"' :: rest) =
      (.text t.joinHalves, (writeText t).length) := by
  have ending : position + 1 + (t.flatMap writeChar).length + 1 - position =
      (writeText t).length := by
    simp only [writeText, List.cons_append, List.length_cons, List.length_append, List.length_nil]
    omega
  unfold scanToken
  rw [if_neg (by decide), if_neg (by decide), if_neg (by decide), if_neg (by decide),
    if_neg (by decide), if_neg (by decide), if_pos rfl, scanText_flatMap_writeChar]
  simp only [List.reverse_nil, List.nil_append, ending]

/-- The token of a written text ends with its closing mark. -/
theorem reads_writeText
    (taken : ∀ position, before.step levels ⟨position, .text t.joinHalves⟩ = .ok after) :
    Reads levels (writeText t) before after := by
  intro done position rest
  refine ⟨[⟨position, .text t.joinHalves⟩], ?_, ?_⟩
  · have written : writeText t ++ rest = CodePoint.ofChar '"' ::
        (t.flatMap writeChar ++ CodePoint.ofChar '"' :: rest) := by simp [writeText]
    have after : (t.flatMap writeChar ++ CodePoint.ofChar '"' :: rest).drop
        ((writeText t).length - 1) = rest := by
      rw [List.append_cons]
      apply List.drop_left'
      simp [writeText]
    rw [written, tokensFrom, if_neg (by decide), scanToken_writeText]
    simp only [Token.isBroken, after]
    rfl
  · rw [run, taken]
    rfl

theorem isRead_writeText (t : Text) : IsRead levels 0 (writeText t) (.text t.joinHalves) :=
  fun _ _ => reads_writeText fun _ => rfl

/-- A list that has begun takes its first item as any place that awaits a value does. -/
theorem Reads.firstItem (read : Reads levels t ⟨.list [] :: outer, .value⟩ after)
    (moved : after.stage ≠ .value) : Reads levels t ⟨outer, .firstItem⟩ after := by
  intro done position rest
  obtain ⟨located, cut, ran⟩ := read done position rest
  refine ⟨located, cut, ?_⟩
  cases located with
  | nil =>
    cases ran
    contradiction
  | cons first others =>
    have opens : first.token ≠ .closeList := by
      intro closes
      simp only [run, step, takeValue, closes] at ran
      cases ran
    rw [run, step_firstItem_eq opens]
    exact ran

section

variable {α : Type} (write : α → Text) (value : α → Value)

/-- Items are read one after the other into the list that awaits them. -/
theorem reads_items {items : List α} (read : ∀ a ∈ items, IsRead levels height (write a) (value a))
    (nonempty : items ≠ []) (done : List Value)
    (room : allows levels (outer.length + (height + 1)) = true) :
    Reads levels (Text.joinWith ", " (items.map write)) ⟨.list done :: outer, .value⟩
      ⟨outer, .afterItem ((items.map value).reverse ++ done)⟩ := by
  induction items generalizing done with
  | nil => contradiction
  | cons a rest ih =>
    have first := read a List.mem_cons_self (.list done :: outer)
      (allows_of_le room (by simp only [List.length_cons]; omega))
    cases rest with
    | nil => exact first
    | cons b rest =>
      have others := ih (fun c membership => read c (List.mem_cons_of_mem a membership))
        (List.cons_ne_nil b rest) (value a :: done)
      have whole := (first.append (reads_nextItem.append (reads_space _))).append others
      rw [List.map_cons (f := value), List.reverse_cons, List.append_assoc]
      exact whole

theorem isRead_list {items : List α}
    (read : ∀ a ∈ items, IsRead levels height (write a) (value a)) :
    IsRead levels (height + 1) (enclose '[' ']' (items.map write)) (.list (items.map value)) := by
  intro outer room
  have opening : Reads levels "[" ⟨outer, .value⟩ _ := reads_openList (allows_of_le room (by omega))
  cases items with
  | nil => exact opening.append reads_closeEmptyList
  | cons a rest =>
    have inside := (reads_items write value read (List.cons_ne_nil a rest) [] room).firstItem nofun
    rw [List.append_nil] at inside
    have closing := @reads_closeList levels outer ((a :: rest).map value).reverse
    rw [List.reverse_reverse] at closing
    exact opening.append (inside.append closing)

theorem reads_members {members : List (Text × α)}
    (read : ∀ member ∈ members, IsRead levels height (write member.2) (value member.2))
    (nonempty : members ≠ []) (done : List (Text × Value)) (mayClose : Bool)
    (room : allows levels (outer.length + (height + 1)) = true) :
    Reads levels (Text.joinWith ", " (members.map fun (key, a) => writeText key ++ ": " ++ write a))
      ⟨outer, .key done mayClose⟩
      ⟨outer, .afterMember
        ((members.map fun (key, a) => (key.joinHalves, value a)).reverse ++ done)⟩ := by
  induction members generalizing done mayClose with
  | nil => contradiction
  | cons member rest ih =>
    obtain ⟨key, a⟩ := member
    have keyRead : Reads levels (writeText key) ⟨outer, .key done mayClose⟩
        ⟨outer, .colon done key.joinHalves⟩ :=
      reads_writeText fun _ => rfl
    have valueRead := read (key, a) List.mem_cons_self (.dict done key.joinHalves :: outer)
      (allows_of_le room (by simp only [List.length_cons]; omega))
    have first : Reads levels (writeText key ++ ": " ++ write a) ⟨outer, .key done mayClose⟩
        ⟨outer, .afterMember ((key.joinHalves, value a) :: done)⟩ :=
      (keyRead.append (reads_colon.append (reads_space _))).append valueRead
    cases rest with
    | nil => exact first
    | cons other rest =>
      have others := ih (fun member membership => read member (List.mem_cons_of_mem _ membership))
        (List.cons_ne_nil other rest) ((key.joinHalves, value a) :: done) false
      have whole := (first.append (reads_nextMember.append (reads_space _))).append others
      rw [List.map_cons (f := fun (member : Text × α) => (member.1.joinHalves, value member.2)),
        List.reverse_cons, List.append_assoc]
      exact whole

theorem isRead_dict {members : List (Text × α)}
    (read : ∀ member ∈ members, IsRead levels height (write member.2) (value member.2)) :
    IsRead levels (height + 1)
      (enclose '\x7b' '\x7d' (members.map fun (key, a) => writeText key ++ ": " ++ write a))
      (.ofMembers (members.map fun (key, a) => (key.joinHalves, value a))) := by
  intro outer room
  have opening : Reads levels "\x7b" ⟨outer, .value⟩ _ :=
    reads_openDict (allows_of_le room (by omega))
  cases members with
  | nil => exact opening.append reads_closeEmptyDict
  | cons member rest =>
    have inside := reads_members write value read (List.cons_ne_nil member rest) [] true room
    rw [List.append_nil] at inside
    have closing := @reads_closeDict levels outer
      ((member :: rest).map fun (key, a) => (key.joinHalves, value a)).reverse
    rw [List.reverse_reverse] at closing
    exact opening.append (inside.append closing)

end

/-- A value is read if the machine has it at the end of the text. -/
theorem read_eq_ok_iff : read levels t = .ok v ↔
    startsWithMark t = false ∧ ∃ m, start.run levels (tokens t) = .ok m ∧
      m.stage = .complete v := by
  unfold read
  cases startsWithMark t with
  | true => simp
  | false =>
    simp only [Bool.false_eq_true, if_false, true_and]
    cases ran : start.run levels (tokens t) with
    | error stop => simp
    | ok m =>
      obtain ⟨outer, stage⟩ := m
      cases stage <;> simp [finish]

/-- A text that takes the machine from its start to a value is read as this value. -/
theorem read_eq_ok (unmarked : startsWithMark t = false)
    (reads : Reads levels t start ⟨[], .complete v⟩) : read levels t = .ok v := by
  obtain ⟨located, cut, ran⟩ := reads [] 0 []
  have whole : tokens t = located := by
    rw [List.append_nil] at cut
    rw [tokens, cut, tokensFrom]
    simp
  refine read_eq_ok_iff.mpr ⟨unmarked, ⟨[], .complete v⟩, ?_, rfl⟩
  rw [whole]
  exact ran

end EventScript.Json
