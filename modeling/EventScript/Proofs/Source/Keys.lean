import EventScript.Proofs.Json.Spelled
import EventScript.Proofs.Source.Shape
import EventScript.Source.Rows
import Mathlib.Data.List.Dedup

/-!
# Rows under keys

However its keys and rows are spelled, a dictionary of lists gives the last row under each of its
keys. These are the rows of the list of the same lists only if no two keys are read as the same.
-/

namespace EventScript

open Json

namespace Value

/-- A member under a key that is there already replaces the value under it. -/
theorem insertMember_map {keys : List Text} (distinct : keys.Nodup) (f : Text → Value)
    (key : Text) (v : Value) :
    insertMember (keys.map fun other => (other, f other)) key v =
      (if key ∈ keys then keys else keys ++ [key]).map fun other =>
        (other, if other = key then v else f other) := by
  induction keys with
  | nil => simp [insertMember]
  | cons first rest ih =>
    rw [List.nodup_cons] at distinct
    simp only [List.map_cons, insertMember]
    by_cases same : first = key
    · subst same
      have others : rest.map (fun other => (other, if other = first then v else f other)) =
          rest.map fun other => (other, f other) := by
        apply List.map_congr_left
        intro other listed
        rw [if_neg]
        rintro rfl
        exact distinct.1 listed
      rw [if_pos rfl, if_pos List.mem_cons_self, List.map_cons, if_pos rfl, others]
    · rw [if_neg same, ih distinct.2]
      by_cases listed : key ∈ rest
      · rw [if_pos listed, if_pos (List.mem_cons_of_mem first listed), List.map_cons, if_neg same]
      · have absent : key ∉ first :: rest :=
          List.not_mem_cons_of_ne_of_not_mem (Ne.symm same) listed
        rw [if_neg listed, if_neg absent, List.cons_append, List.map_cons, if_neg same]

end Value

namespace Source

/-- Of several rows under one key the last one, where the first one stood. -/
def lastUnderKeys (entries : List (Text × Row)) : List (Text × Row) :=
  let latest := entries.reverse
  (latest.map Prod.fst).dedup.reverse.map fun key => (key, (latest.lookup key).getD [])

/-- Members that are inserted one after the other, the last one standing first. -/
theorem foldr_insertMember (latest : List (Text × Row)) :
    latest.foldr (fun entry held => Value.insertMember held entry.1 (.list entry.2)) [] =
      (latest.map Prod.fst).dedup.reverse.map fun key =>
        (key, .list ((latest.lookup key).getD [])) := by
  induction latest with
  | nil => rfl
  | cons entry rest ih =>
    obtain ⟨key, row⟩ := entry
    have keys : (((key, row) :: rest).map Prod.fst).dedup.reverse =
        if key ∈ (rest.map Prod.fst).dedup.reverse then (rest.map Prod.fst).dedup.reverse
        else (rest.map Prod.fst).dedup.reverse ++ [key] := by
      simp only [List.map_cons, List.mem_reverse, List.mem_dedup, List.dedup_cons]
      split
      · rfl
      · rw [List.reverse_cons]
    rw [List.foldr_cons, ih, keys,
      Value.insertMember_map (List.nodup_reverse.mpr (List.nodup_dedup _))
        fun other => .list ((rest.lookup other).getD [])]
    apply List.map_congr_left
    intro other _
    rw [List.lookup_cons]
    by_cases same : other = key
    · subst same
      simp
    · simp [same, beq_false_of_ne same]

/-- Whatever the keys, what is read of lists under them is a dictionary of lists. -/
theorem ofMembers_eq_dict (entries : List (Text × Row)) :
    Value.ofMembers (entries.map fun entry => (entry.1, .list entry.2)) =
      .dict ((lastUnderKeys entries).map fun entry => (entry.1, .list entry.2)) := by
  unfold Value.ofMembers
  rw [List.foldl_map, ← List.foldr_reverse, foldr_insertMember, lastUnderKeys, List.map_map]
  rfl

theorem length_lastUnderKeys_eq_iff {entries : List (Text × Row)} :
    (lastUnderKeys entries).length = entries.length ↔ (entries.map Prod.fst).Nodup := by
  rw [lastUnderKeys, List.length_map, List.length_reverse, ← List.nodup_reverse,
    ← List.map_reverse, ← List.dedup_eq_self]
  constructor
  · intro same
    apply (List.dedup_sublist _).eq_of_length
    rw [same, List.length_map, List.length_reverse]
  · intro same
    rw [same, List.length_map, List.length_reverse]

theorem map_snd_lastUnderKeys {entries : List (Text × Row)}
    (distinct : (entries.map Prod.fst).Nodup) :
    (lastUnderKeys entries).map Prod.snd = entries.map Prod.snd := by
  have separate :
      ((entries.map fun entry => (entry.1, Value.list entry.2)).map Prod.fst).Nodup := by
    rwa [List.map_map]
  have same := (Value.ofMembers_of_nodup separate).symm.trans (ofMembers_eq_dict entries)
  have rows := congrArg rowsOfValue same
  rw [rowsOfValue_dict, rowsOfValue_dict] at rows
  exact (Except.ok.inj rows).symm

variable {levels : Option Nat}

theorem rowsOfJson_listText (margins : Margins) (members : List (SpelledMember levels)) :
    rowsOfJson (levels.map (· + 1)) (margins.listText members) =
      .ok (members.map SpelledMember.row) := by
  have rows := rowsOfValue_list (members.map SpelledMember.row)
  rw [List.map_map] at rows
  unfold rowsOfJson
  rw [read_listText]
  exact rows

theorem rowsOfJson_dictText (margins : Margins) (members : List (SpelledMember levels)) :
    rowsOfJson (levels.map (· + 1)) (margins.dictText members) =
      .ok ((lastUnderKeys (members.map SpelledMember.entry)).map Prod.snd) := by
  have value := ofMembers_eq_dict (members.map SpelledMember.entry)
  rw [List.map_map] at value
  unfold rowsOfJson
  rw [read_dictText]
  exact (congrArg rowsOfValue value).trans (rowsOfValue_dict _)

/-- A list of arrays gives all of them as rows, and a dictionary the last one under each key. No row
is lost, and the rows are the same, exactly if all keys are different once they are read. -/
theorem rowsOfJson_dictText_eq_iff (listMargins dictMargins : Margins)
    (members : List (SpelledMember levels)) :
    let outside := levels.map (· + 1)
    let kept := (lastUnderKeys (members.map SpelledMember.entry)).map Prod.snd
    rowsOfJson outside (listMargins.listText members) = .ok (members.map SpelledMember.row) ∧
      rowsOfJson outside (dictMargins.dictText members) = .ok kept ∧
      (kept.length = members.length ↔ (members.map SpelledMember.key).Nodup) ∧
      (rowsOfJson outside (dictMargins.dictText members) =
          rowsOfJson outside (listMargins.listText members) ↔
        (members.map SpelledMember.key).Nodup) := by
  intro outside kept
  have list := rowsOfJson_listText listMargins members
  have dict := rowsOfJson_dictText dictMargins members
  have keys : (members.map SpelledMember.entry).map Prod.fst = members.map SpelledMember.key :=
    List.map_map
  have rows : (members.map SpelledMember.entry).map Prod.snd = members.map SpelledMember.row :=
    List.map_map
  have complete : kept.length = members.length ↔ (members.map SpelledMember.key).Nodup := by
    have lengths := @length_lastUnderKeys_eq_iff (members.map SpelledMember.entry)
    rwa [List.length_map, keys, ← List.length_map (f := Prod.snd)] at lengths
  refine ⟨list, dict, complete, ?_⟩
  rw [list, dict, Except.ok.injEq]
  constructor
  · intro same
    have lengths := congrArg List.length same
    rw [List.length_map (f := SpelledMember.row)] at lengths
    exact complete.mp lengths
  · intro distinct
    rw [← keys] at distinct
    rw [map_snd_lastUnderKeys distinct, rows]

/-- One key in two spellings. -/
def repeatedKey : List (SpelledMember (some usualLevels)) := [
  { keyText := "\"a\"", key := "a", rowText := " [1]", row := [.int 1],
    key_read := by cbv, row_read := by cbv },
  { keyText := " \"\\u0061\"", key := "a", rowText := " [2]", row := [.int 2],
    key_read := by cbv, row_read := by cbv }]

/-- The first of two rows is dropped. -/
theorem not_forall_rowsOfJson_dictText_eq :
    ¬∀ (levels : Option Nat) (margins : Margins) (members : List (SpelledMember levels)),
      rowsOfJson (levels.map (· + 1)) (margins.dictText members) =
        rowsOfJson (levels.map (· + 1)) (margins.listText members) := by
  intro every
  let margins : Margins := ⟨[], [], [], by simp⟩
  have same := every _ margins repeatedKey
  rw [rowsOfJson_dictText, rowsOfJson_listText] at same
  have lengths := congrArg List.length (Except.ok.inj same)
  revert lengths
  decide

end Source

end EventScript
