import EventScript.Source.Shape
import Mathlib.Data.List.Nodup
import Mathlib.Data.Set.List

/-!
# Tables and what is no table

A list of lists, or a dictionary of lists, has these lists as its rows, in their order. Of any other
value one part is reported: the value itself, its last item that is no list, or the member that has
the greatest key of those that are none. A dictionary keeps members under keys that are all
different as they come.
-/

namespace EventScript

namespace Text

/-- A text comes before another as in a dictionary, by the numbers of their code points. -/
def Precedes (t u : Text) : Prop :=
  List.Lex (fun c d => c.val < d.val) t u

instance (t u : Text) : Decidable (t.Precedes u) :=
  inferInstanceAs (Decidable (List.Lex (fun c d => c.val < d.val) t u))

theorem Precedes.trans {t u v : Text} (first : t.Precedes u) (second : u.Precedes v) :
    t.Precedes v :=
  List.lex_trans Nat.lt_trans first second

theorem not_precedes_self (t : Text) : ¬t.Precedes t :=
  List.lex_irrefl (fun c => Nat.lt_irrefl c.val) t

theorem eq_of_not_precedes {t u : Text} (notBefore : ¬t.Precedes u) (notAfter : ¬u.Precedes t) :
    t = u := by
  induction t generalizing u with
  | nil => exact (List.not_nil_lex_iff.mp notBefore).symm
  | cons c t ih =>
    cases u with
    | nil => exact absurd .nil notAfter
    | cons d u =>
      rw [Precedes, List.cons_lex_cons_iff, not_or, not_and] at notBefore notAfter
      have same : c = d := CodePoint.eq_of_val_eq <|
        Nat.le_antisymm (Nat.le_of_not_lt notAfter.1) (Nat.le_of_not_lt notBefore.1)
      rw [same, ih (notBefore.2 same) (notAfter.2 same.symm)]

theorem le_iff {t u : Text} : t.le u = true ↔ ¬u.Precedes t := by
  induction t generalizing u with
  | nil => exact iff_of_true rfl nofun
  | cons c t ih =>
    cases u with
    | nil => exact iff_of_false nofun (not_not_intro .nil)
    | cons d u =>
      rw [Precedes, List.cons_lex_cons_iff, not_or, not_and, ← CodePoint.val_inj]
      simp only [le, Bool.or_eq_true, decide_eq_true_eq, Bool.and_eq_true, beq_iff_eq, ih, Precedes]
      constructor
      · rintro (less | ⟨same, further⟩)
        · exact ⟨Nat.lt_asymm less, fun same => absurd same.symm (Nat.ne_of_lt less)⟩
        · exact ⟨Nat.not_lt_of_le (Nat.le_of_eq same), fun _ => further⟩
      · rintro ⟨notLess, further⟩
        rcases Nat.lt_or_eq_of_le (Nat.le_of_not_lt notLess) with less | same
        · exact .inl less
        · exact .inr ⟨same, further same.symm⟩

end Text

namespace Value

theorem insertMember_of_notMem {members : List (Text × Value)} {key : Text} (v : Value)
    (absent : key ∉ members.map Prod.fst) :
    insertMember members key v = members ++ [(key, v)] := by
  induction members with
  | nil => rfl
  | cons member rest ih =>
    rw [List.map_cons, List.mem_cons, not_or] at absent
    rw [insertMember, if_neg fun same => absent.1 same.symm, ih absent.2, List.cons_append]

theorem foldl_insertMember_of_nodup {held members : List (Text × Value)}
    (distinct : ((held ++ members).map Prod.fst).Nodup) :
    members.foldl (fun held member => insertMember held member.1 member.2) held =
      held ++ members := by
  induction members generalizing held with
  | nil => rw [List.append_nil, List.foldl_nil]
  | cons member rest ih =>
    have absent : member.1 ∉ held.map Prod.fst := by
      rw [List.map_append, List.map_cons, List.nodup_middle, List.nodup_cons] at distinct
      intro inside
      exact distinct.1 (List.mem_append_left _ inside)
    rw [List.append_cons] at distinct
    rw [List.foldl_cons, insertMember_of_notMem member.2 absent, ih distinct, ← List.append_cons]

/-- Members under different keys are kept, in their order. -/
theorem ofMembers_of_nodup {members : List (Text × Value)}
    (distinct : (members.map Prod.fst).Nodup) : ofMembers members = .dict members := by
  unfold ofMembers
  rw [foldl_insertMember_of_nodup (by simpa using distinct), List.nil_append]

theorem keys_insertMember (held : List (Text × Value)) (key : Text) (v : Value) :
    (insertMember held key v).map Prod.fst =
      if key ∈ held.map Prod.fst then held.map Prod.fst else held.map Prod.fst ++ [key] := by
  by_cases present : key ∈ held.map Prod.fst
  · rw [if_pos present]
    induction held with
    | nil => cases present
    | cons member rest ih =>
      rw [insertMember]
      split
      · next same => rw [List.map_cons, List.map_cons, same]
      · next other =>
        rw [List.map_cons, List.map_cons,
          ih ((List.mem_cons.mp present).resolve_left (Ne.symm other))]
  · rw [if_neg present, insertMember_of_notMem v present, List.map_append]
    rfl

/-- No two members have one key. -/
def HasDistinctKeys (v : Value) : Prop :=
  ∀ members, v = .dict members → (members.map Prod.fst).Nodup

theorem nodup_keys_insertMember {held : List (Text × Value)} (distinct : (held.map Prod.fst).Nodup)
    (key : Text) (v : Value) : ((insertMember held key v).map Prod.fst).Nodup := by
  rw [keys_insertMember]
  split
  · exact distinct
  · next absent => exact List.nodup_append_comm.mpr (List.nodup_cons.mpr ⟨absent, distinct⟩)

theorem nodup_keys_foldl {held : List (Text × Value)} (distinct : (held.map Prod.fst).Nodup)
    (members : List (Text × Value)) :
    ((members.foldl (fun held member => insertMember held member.1 member.2) held).map
      Prod.fst).Nodup := by
  induction members generalizing held with
  | nil => exact distinct
  | cons member rest ih => exact ih (nodup_keys_insertMember distinct member.1 member.2)

theorem hasDistinctKeys_ofMembers (members : List (Text × Value)) :
    (ofMembers members).HasDistinctKeys := by
  rintro _ ⟨⟩
  have nothing : (([] : List (Text × Value)).map Prod.fst).Nodup := List.nodup_nil
  exact nodup_keys_foldl nothing members

end Value

namespace Source

variable {v : Value} {items : List Value} {members : List (Text × Value)} {key : Text}
  {index place : Nat}

theorem row?_eq_some_iff {row : Row} : row? v = some row ↔ v = .list row := by
  cases v <;> simp [row?]

theorem row?_eq_none_iff : row? v = none ↔ ∀ row, v ≠ .list row := by
  cases v <;> simp [row?]

theorem isSome_row?_iff : (row? v).isSome = true ↔ ∃ row, v = .list row := by
  rw [Option.isSome_iff_exists]
  simp only [row?_eq_some_iff]

/-! ## The part that is reported -/

theorem lastMisfit?_eq_none_iff :
    lastMisfit? index items = none ↔ ∀ item ∈ items, ∃ row, item = .list row := by
  induction items generalizing index with
  | nil => simp [lastMisfit?]
  | cons first rest ih =>
    rw [List.forall_mem_cons, ← isSome_row?_iff, ← @ih (index + 1), lastMisfit?]
    cases lastMisfit? (index + 1) rest with
    | some found => simp
    | none => cases row? first <;> simp

theorem lastMisfit?_append {before after : List Value} (misfit : ∀ row, v ≠ .list row)
    (last : ∀ later ∈ after, ∃ row, later = .list row) :
    lastMisfit? index (before ++ v :: after) = some (index + before.length, v) := by
  induction before generalizing index with
  | nil =>
    rw [List.nil_append, lastMisfit?, lastMisfit?_eq_none_iff.mpr last,
      row?_eq_none_iff.mpr misfit]
    rfl
  | cons first before ih =>
    rw [List.cons_append, lastMisfit?, ih, List.length_cons]
    simp only [Option.some.injEq, Prod.mk.injEq, and_true]
    omega

theorem exists_of_lastMisfit? (found : lastMisfit? index items = some (place, v)) :
    ∃ before after, items = before ++ v :: after ∧ place = index + before.length ∧
      (∀ row, v ≠ .list row) ∧ ∀ later ∈ after, ∃ row, later = .list row := by
  induction items generalizing index with
  | nil => cases found
  | cons first rest ih =>
    rw [lastMisfit?] at found
    split at found
    · next later =>
      cases found
      obtain ⟨before, after, rfl, rfl, misfit, last⟩ := ih later
      exact ⟨first :: before, after, rfl, by simp only [List.length_cons]; omega, misfit, last⟩
    · next fits =>
      split at found
      · cases found
      · next misfit =>
        cases found
        refine ⟨[], rest, rfl, rfl, ?_, lastMisfit?_eq_none_iff.mp fits⟩
        exact row?_eq_none_iff.mp (by simpa using misfit)

theorem greatestMisfit?_eq_none_iff :
    greatestMisfit? members = none ↔ ∀ member ∈ members, ∃ row, member.2 = .list row := by
  induction members with
  | nil => simp [greatestMisfit?]
  | cons first rest ih =>
    obtain ⟨key, v⟩ := first
    rw [List.forall_mem_cons, ← isSome_row?_iff, ← ih, greatestMisfit?]
    cases greatestMisfit? rest with
    | some found =>
      simp only [reduceCtorEq, and_false, iff_false]
      split <;> exact Option.some_ne_none _
    | none => cases row? v <;> simp

/-- A member that is reported is one of those that are no lists, and none of them has a greater
key. -/
theorem of_greatestMisfit? (found : greatestMisfit? members = some (key, v)) :
    (key, v) ∈ members ∧ (∀ row, v ≠ .list row) ∧
      ∀ member ∈ members, (∀ row, member.2 ≠ .list row) → ¬key.Precedes member.1 := by
  induction members generalizing key v with
  | nil => cases found
  | cons first rest ih =>
    obtain ⟨firstKey, w⟩ := first
    rw [greatestMisfit?] at found
    simp only [List.forall_mem_cons]
    split at found
    · next other u later =>
      obtain ⟨listed, misfit, greatest⟩ := ih later
      split at found
      · next greater =>
        cases found
        obtain ⟨noRow, above⟩ := greater
        rw [Bool.not_eq_true', ← Bool.not_eq_true, Text.le_iff, not_not] at above
        refine ⟨List.mem_cons_self, row?_eq_none_iff.mp (by simpa using noRow), ?_, ?_⟩
        · exact fun _ => Text.not_precedes_self key
        · intro member held misfit higher
          exact greatest member held misfit (above.trans higher)
      · next smaller =>
        cases found
        refine ⟨List.mem_cons_of_mem _ listed, misfit, ?_, greatest⟩
        intro firstMisfit
        rw [← Text.le_iff]
        simpa [row?_eq_none_iff.mpr firstMisfit] using smaller
    · next fits =>
      have others := greatestMisfit?_eq_none_iff.mp fits
      split at found
      · cases found
      · next misfit =>
        cases found
        refine ⟨List.mem_cons_self, row?_eq_none_iff.mp (by simpa using misfit), ?_, ?_⟩
        · exact fun _ => Text.not_precedes_self key
        · intro member listed misfit
          obtain ⟨row, same⟩ := others member listed
          exact absurd same (misfit row)

/-- The part of a value that is reported: the value itself if it is neither a list nor a dictionary,
the last item that is no list, or the member with the greatest key of those that are no lists. -/
inductive Blames : Value → Misfit → Prop
  | top {v : Value} (noList : ∀ items, v ≠ .list items) (noDict : ∀ members, v ≠ .dict members) :
    Blames v ⟨[], v, true⟩
  | item {before after : List Value} {part : Value} (misfit : ∀ row, part ≠ .list row)
    (last : ∀ later ∈ after, ∃ row, later = .list row) :
    Blames (.list (before ++ part :: after)) ⟨Numeral.digits before.length, part, false⟩
  | member {members : List (Text × Value)} {key : Text} {part : Value}
    (held : (key, part) ∈ members) (misfit : ∀ row, part ≠ .list row)
    (greatest : ∀ member ∈ members, (∀ row, member.2 ≠ .list row) →
      ¬key.Precedes member.1) :
    Blames (.dict members) ⟨key, part, false⟩

theorem blames_of_misfit? {misfit : Misfit} (found : misfit? v = some misfit) :
    Blames v misfit := by
  cases v with
  | list items =>
    obtain ⟨⟨place, part⟩, last, rfl⟩ := Option.map_eq_some_iff.mp found
    obtain ⟨before, after, rfl, rfl, misfit, others⟩ := exists_of_lastMisfit? last
    rw [Nat.zero_add]
    exact .item misfit others
  | dict members =>
    obtain ⟨⟨key, part⟩, first, rfl⟩ := Option.map_eq_some_iff.mp found
    obtain ⟨held, misfit, greatest⟩ := of_greatestMisfit? first
    exact .member held misfit greatest
  | null | bool | int | double | text =>
    cases found
    exact .top nofun nofun

/-- Under different keys there is one part at most that can be reported. -/
theorem Blames.misfit?_eq {misfit : Misfit} (blames : Blames v misfit)
    (distinct : v.HasDistinctKeys) : misfit? v = some misfit := by
  cases blames with
  | top noList noDict =>
    cases v with
    | list items => exact absurd rfl (noList items)
    | dict members => exact absurd rfl (noDict members)
    | null | bool | int | double | text => rfl
  | item misfit last =>
    rw [misfit?, lastMisfit?_append misfit last, Nat.zero_add]
    rfl
  | @member members key part held misfit greatest =>
    cases found : greatestMisfit? members with
    | none =>
      obtain ⟨row, same⟩ := greatestMisfit?_eq_none_iff.mp found _ held
      exact absurd same (misfit row)
    | some other =>
      obtain ⟨otherHeld, otherMisfit, otherGreatest⟩ := of_greatestMisfit? found
      have same : other.1 = key :=
        Text.eq_of_not_precedes (otherGreatest _ held misfit) (greatest other otherHeld otherMisfit)
      have whole : other = (key, part) :=
        List.inj_on_of_nodup_map (distinct members rfl) otherHeld held same
      rw [misfit?, found, whole]
      rfl

/-! ## Rows -/

/-- A list of lists, or a dictionary of lists, holds these lists as rows. -/
inductive Tabulates : Value → List Row → Prop
  | list (rows : List Row) : Tabulates (.list (rows.map .list)) rows
  | dict (entries : List (Text × Row)) :
    Tabulates (.dict (entries.map fun entry => (entry.1, .list entry.2))) (entries.map Prod.snd)

theorem rowsOfValue_list (rows : List Row) : rowsOfValue (.list (rows.map .list)) = .ok rows := by
  have fits : lastMisfit? 0 (rows.map Value.list) = none := by
    rw [lastMisfit?_eq_none_iff, List.forall_mem_map]
    exact fun row _ => ⟨row, rfl⟩
  unfold rowsOfValue
  rw [misfit?, fits]
  simp [Source.rows, row?, Function.comp_def]

theorem rowsOfValue_dict (entries : List (Text × Row)) :
    rowsOfValue (.dict (entries.map fun entry => (entry.1, .list entry.2))) =
      .ok (entries.map Prod.snd) := by
  have fits : greatestMisfit? (entries.map fun entry => (entry.1, .list entry.2)) = none := by
    rw [greatestMisfit?_eq_none_iff, List.forall_mem_map]
    exact fun entry _ => ⟨entry.2, rfl⟩
  unfold rowsOfValue
  rw [misfit?, fits]
  simp [Source.rows, row?]

theorem Tabulates.rowsOfValue_eq {rows : List Row} (tabulates : Tabulates v rows) :
    rowsOfValue v = .ok rows := by
  cases tabulates with
  | list rows => exact rowsOfValue_list rows
  | dict entries => exact rowsOfValue_dict entries

/-- A value without a part to report is a table. -/
theorem exists_tabulates_of_misfit? (fits : misfit? v = none) : ∃ rows, Tabulates v rows := by
  cases v with
  | list items =>
    have lists := lastMisfit?_eq_none_iff.mp (Option.map_eq_none_iff.mp fits)
    have range : items ∈ Set.range (List.map Value.list) := by
      rw [Set.range_list_map]
      exact fun item listed => (lists item listed).imp fun _ => Eq.symm
    obtain ⟨rows, rfl⟩ := range
    exact ⟨rows, .list rows⟩
  | dict members =>
    have lists := greatestMisfit?_eq_none_iff.mp (Option.map_eq_none_iff.mp fits)
    have range : members ∈
        Set.range (List.map fun entry : Text × Row => (entry.1, Value.list entry.2)) := by
      rw [Set.range_list_map]
      intro member listed
      obtain ⟨row, same⟩ := lists member listed
      exact ⟨(member.1, row), Prod.ext rfl same.symm⟩
    obtain ⟨entries, rfl⟩ := range
    exact ⟨entries.map Prod.snd, .dict entries⟩
  | null | bool | int | double | text => cases fits

/-- Rows are those of a table, and only a table has rows. -/
theorem rowsOfValue_eq_ok_iff {rows : List Row} : rowsOfValue v = .ok rows ↔ Tabulates v rows := by
  constructor
  · intro made
    have fits : misfit? v = none := by
      unfold rowsOfValue at made
      split at made
      · cases made
      · assumption
    obtain ⟨others, tabulates⟩ := exists_tabulates_of_misfit? fits
    cases tabulates.rowsOfValue_eq.symm.trans made
    exact tabulates
  · exact Tabulates.rowsOfValue_eq

end Source

end EventScript
