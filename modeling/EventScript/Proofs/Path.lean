import EventScript.Path
import EventScript.Proofs.Text.Basic
import Mathlib.Data.List.TakeWhile

/-!
# Paths and their texts

Reading drops what says nothing, so that a path is read back from the text it is shown as. The last
component of a path has an extension exactly if it can be divided into something and an extension,
and there is only one way to do so.
-/

namespace EventScript.Path

variable {p : Path} {name stem extension letters t : Text}

/-- The parts of a path are components, and each is only one. -/
def IsNormal (p : Path) : Prop :=
  ∀ part ∈ p.parts, isComponent part = true ∧ CodePoint.ofChar '/' ∉ part

theorem isNormal_ofText (t : Text) : (ofText t).IsNormal := by
  intro part listed
  obtain ⟨piece, component⟩ := List.mem_filter.mp listed
  exact ⟨component, Text.notMem_of_mem_splitOn piece⟩

theorem IsNormal.parent_child (normal : p.IsNormal) (component : isComponent name = true)
    (single : CodePoint.ofChar '/' ∉ name) : (p.parent.child name).IsNormal := by
  intro part listed
  rcases List.mem_append.mp listed with before | last
  · exact normal part (List.dropLast_subset _ before)
  · rw [List.mem_singleton.mp last]
    exact ⟨component, single⟩

@[simp] theorem parent_parent_child (p : Path) (name : Text) :
    (p.parent.child name).parent = p.parent := by
  simp [parent, child]

@[simp] theorem name_child (p : Path) (name : Text) : (p.child name).name = name := by
  simp [Path.name, child]

/-! ## Reading back -/

theorem filter_splitOn_joinWith (normal : p.IsNormal) :
    (Text.splitOn '/' (Text.joinWith "/" p.parts)).filter isComponent = p.parts := by
  by_cases blank : p.parts = []
  · rw [blank]
    rfl
  · have divided : Text.splitOn '/' (Text.joinWith "/" p.parts) = p.parts :=
      Text.splitOn_joinWith blank fun part listed => (normal part listed).2
    rw [divided, List.filter_eq_self]
    exact fun part listed => (normal part listed).1

theorem head?_joinWith_ne (normal : p.IsNormal) :
    ∀ c ∈ (Text.joinWith "/" p.parts).head?, c ≠ CodePoint.ofChar '/' := by
  obtain ⟨anchor, parts⟩ := p
  cases parts with
  | nil => exact nofun
  | cons part rest =>
    obtain ⟨component, single⟩ := normal part List.mem_cons_self
    cases part with
    | nil => cases component
    | cons first letters =>
      rw [List.mem_cons, not_or] at single
      intro c begins
      have same : first = c := by cases rest <;> exact Option.some.inj begins
      exact same ▸ Ne.symm single.1

theorem anchorOf_append (anchor : Anchor) (relative : ∀ c ∈ t.head?, c ≠ CodePoint.ofChar '/') :
    anchorOf (Anchor.text anchor ++ t) = anchor := by
  have slashes : (Anchor.text anchor ++ t).takeWhile (fun c => c = CodePoint.ofChar '/') =
      Anchor.text anchor := by
    apply Text.takeWhile_append_eq
    · cases anchor <;> decide
    · exact fun c begins => decide_eq_false (relative c begins)
  rw [anchorOf, slashes]
  cases anchor <;> rfl

theorem filter_splitOn_append (anchor : Anchor) (t : Text) :
    (Text.splitOn '/' (Anchor.text anchor ++ t)).filter isComponent =
      (Text.splitOn '/' t).filter isComponent := by
  have skipped (u : Text) : (Text.splitOn '/' (CodePoint.ofChar '/' :: u)).filter isComponent =
      (Text.splitOn '/' u).filter isComponent := by
    rw [Text.splitOn_mark]
    rfl
  cases anchor with
  | relative => rfl
  | root => exact skipped t
  | doubleRoot => exact (skipped _).trans (skipped t)

theorem toText_of_ne (spoken : p ≠ ⟨.relative, []⟩) :
    p.toText = Anchor.text p.anchor ++ Text.joinWith "/" p.parts := by
  obtain ⟨anchor, parts⟩ := p
  unfold toText
  split
  · next relative blank =>
    cases relative
    cases blank
    contradiction
  · rfl

theorem ofText_toText (normal : p.IsNormal) : ofText p.toText = p := by
  by_cases silent : p = ⟨.relative, []⟩
  · rw [silent]
    rfl
  · rw [toText_of_ne silent, ofText, anchorOf_append p.anchor (head?_joinWith_ne normal),
      filter_splitOn_append, filter_splitOn_joinWith normal]

/-- What holds no slash is read as a single component or says nothing. -/
theorem name_ofText (single : CodePoint.ofChar '/' ∉ t) :
    (ofText t).name = if isComponent t then t else [] := by
  rw [Path.name, ofText, Text.splitOn_eq_singleton single]
  by_cases component : isComponent t <;> simp [component]

theorem name_eq_nil_iff (normal : p.IsNormal) : p.name = [] ↔ p.parts = [] := by
  constructor
  · intro nameless
    cases last : p.parts.getLast? with
    | none => exact List.getLast?_eq_none_iff.mp last
    | some part =>
      have component := (normal part (List.mem_of_getLast? last)).1
      rw [Path.name, last, Option.getD_some] at nameless
      rw [nameless] at component
      cases component
  · intro blank
    rw [Path.name, blank]
    rfl

theorem IsNormal.slash_notMem_name (normal : p.IsNormal) : CodePoint.ofChar '/' ∉ p.name := by
  cases last : p.parts.getLast? with
  | none =>
    rw [Path.name, last]
    exact List.not_mem_nil
  | some part =>
    rw [Path.name, last]
    exact (normal part (List.mem_of_getLast? last)).2

/-! ## Extensions -/

/-- A dot with something behind it in which there is no other dot. -/
def IsExtension (t : Text) : Prop :=
  ∃ letters, t = CodePoint.ofChar '.' :: letters ∧ letters ≠ [] ∧ CodePoint.ofChar '.' ∉ letters

theorem undotted_reverse (absent : CodePoint.ofChar '.' ∉ t) :
    ∀ c ∈ t.reverse, decide (c ≠ CodePoint.ofChar '.') = true := by
  intro c listed
  apply decide_eq_true
  rintro rfl
  exact absent (List.mem_reverse.mp listed)

theorem splitExtension?_of_notMem (absent : CodePoint.ofChar '.' ∉ name) :
    splitExtension? name = none := by
  have dropped := List.dropWhile_eq_nil_iff.mpr (undotted_reverse absent)
  simp only [splitExtension?, dropped, List.drop_nil, List.reverse_nil, true_or, if_true]

theorem splitExtension?_of_lastDot (absent : CodePoint.ofChar '.' ∉ letters) :
    splitExtension? (stem ++ CodePoint.ofChar '.' :: letters) =
      if stem = [] ∨ letters = [] then none else some (stem, CodePoint.ofChar '.' :: letters) := by
  have undotted := undotted_reverse absent
  have stops : ∀ c ∈ (CodePoint.ofChar '.' :: stem.reverse).head?,
      decide (c ≠ CodePoint.ofChar '.') = false := by
    intro c begins
    cases begins
    decide
  have backwards : (stem ++ CodePoint.ofChar '.' :: letters).reverse =
      letters.reverse ++ CodePoint.ofChar '.' :: stem.reverse := by
    simp
  simp only [splitExtension?, backwards, Text.takeWhile_append_eq undotted stops,
    Text.dropWhile_append_eq undotted stops, List.drop_one, List.tail_cons, List.reverse_reverse]

theorem exists_lastDot (dotted : CodePoint.ofChar '.' ∈ name) :
    ∃ stem letters, name = stem ++ CodePoint.ofChar '.' :: letters ∧
      CodePoint.ofChar '.' ∉ letters := by
  obtain ⟨letters, stem, cut, absent⟩ := List.eq_append_cons_of_mem (List.mem_reverse.mpr dotted)
  refine ⟨stem.reverse, letters.reverse, ?_, mt List.mem_reverse.mp absent⟩
  rw [← List.reverse_reverse name, cut]
  simp

theorem splitExtension?_eq_some_iff :
    splitExtension? name = some (stem, extension) ↔
      name = stem ++ extension ∧ stem ≠ [] ∧ IsExtension extension := by
  constructor
  · intro divided
    by_cases dotted : CodePoint.ofChar '.' ∈ name
    · obtain ⟨front, letters, rfl, absent⟩ := exists_lastDot dotted
      rw [splitExtension?_of_lastDot absent] at divided
      split at divided
      · cases divided
      · next filled =>
        cases divided
        rw [not_or] at filled
        exact ⟨rfl, filled.1, letters, rfl, filled.2, absent⟩
    · rw [splitExtension?_of_notMem dotted] at divided
      cases divided
  · rintro ⟨rfl, nonempty, letters, rfl, filled, absent⟩
    rw [splitExtension?_of_lastDot absent, if_neg (not_or.mpr ⟨nonempty, filled⟩)]

theorem extension_eq_nil_iff : p.extension = [] ↔ splitExtension? p.name = none := by
  rw [Path.extension]
  cases divided : splitExtension? p.name with
  | none => simp
  | some parts =>
    obtain ⟨-, -, letters, written, -⟩ := splitExtension?_eq_some_iff.mp divided
    simp [written]

/-- What is put behind a name becomes its extension. -/
theorem extension_of_name (named : p.name = stem ++ extension) (nonempty : stem ≠ [])
    (extended : IsExtension extension) : p.extension = extension := by
  have divided := splitExtension?_eq_some_iff.mpr ⟨named, nonempty, extended⟩
  rw [Path.extension, divided]

end EventScript.Path
