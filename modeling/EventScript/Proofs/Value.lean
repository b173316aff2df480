import EventScript.Value

/-!
# Integers of a value

A value can be shown if each integer in it can be, however deep it lies. Collecting values or
members brings no integers but theirs.
-/

namespace EventScript.Value

mutual

/-- The integers anywhere in a value. -/
def integers : Value → List Int
  | int n => [n]
  | list items => integersOfItems items
  | dict members => integersOfMembers members
  | _ => []

def integersOfItems : List Value → List Int
  | [] => []
  | v :: rest => v.integers ++ integersOfItems rest

def integersOfMembers : List (Text × Value) → List Int
  | [] => []
  | (_, v) :: rest => v.integers ++ integersOfMembers rest

end

theorem mem_integersOfItems_iff {items : List Value} {n : Int} :
    n ∈ integersOfItems items ↔ ∃ v ∈ items, n ∈ v.integers := by
  induction items with
  | nil => simp [integersOfItems]
  | cons v rest ih => simp [integersOfItems, ih]

theorem mem_integersOfMembers_iff {members : List (Text × Value)} {n : Int} :
    n ∈ integersOfMembers members ↔ ∃ member ∈ members, n ∈ member.2.integers := by
  induction members with
  | nil => simp [integersOfMembers]
  | cons member rest ih =>
    obtain ⟨key, v⟩ := member
    simp [integersOfMembers, ih]

/-- None of the integers in the value is too long to be written. -/
def HasWritableIntegers (v : Value) : Prop :=
  ∀ n ∈ v.integers, Numeral.isWritable n = true

instance (v : Value) : Decidable v.HasWritableIntegers :=
  inferInstanceAs (Decidable (∀ n ∈ v.integers, Numeral.isWritable n = true))

mutual

theorem isDisplayable_of_integers :
    ∀ v : Value, v.HasWritableIntegers → v.isDisplayable = true
  | int n, writable => writable n List.mem_cons_self
  | list items, writable => areDisplayable_of_integers items writable
  | dict members, writable => haveDisplayable_of_integers members writable
  | null, _ => rfl
  | bool _, _ => rfl
  | double _, _ => rfl
  | text _, _ => rfl

theorem areDisplayable_of_integers :
    ∀ items : List Value, (∀ n ∈ integersOfItems items, Numeral.isWritable n = true) →
      areDisplayable items = true
  | [], _ => rfl
  | v :: rest, writable => by
    have first := isDisplayable_of_integers v fun n inside =>
      writable n (List.mem_append_left _ inside)
    have others := areDisplayable_of_integers rest fun n inside =>
      writable n (List.mem_append_right _ inside)
    rw [areDisplayable, first, others]
    rfl

theorem haveDisplayable_of_integers :
    ∀ members : List (Text × Value),
      (∀ n ∈ integersOfMembers members, Numeral.isWritable n = true) →
      haveDisplayable members = true
  | [], _ => rfl
  | (_, v) :: rest, writable => by
    have first := isDisplayable_of_integers v fun n inside =>
      writable n (List.mem_append_left _ inside)
    have others := haveDisplayable_of_integers rest fun n inside =>
      writable n (List.mem_append_right _ inside)
    rw [haveDisplayable, first, others]
    rfl

end

theorem mem_integersOfMembers_insertMember {held : List (Text × Value)} {key : Text} {v : Value}
    {n : Int} (inside : n ∈ integersOfMembers (insertMember held key v)) :
    n ∈ integersOfMembers held ∨ n ∈ v.integers := by
  induction held with
  | nil => simpa [insertMember, integersOfMembers] using inside
  | cons member rest ih =>
    obtain ⟨other, w⟩ := member
    rw [insertMember] at inside
    split at inside
    · rcases List.mem_append.mp inside with new | later
      · exact .inr new
      · exact .inl (List.mem_append_right _ later)
    · rcases List.mem_append.mp inside with first | later
      · exact .inl (List.mem_append_left _ first)
      · rcases ih later with old | new
        · exact .inl (List.mem_append_right _ old)
        · exact .inr new

theorem mem_integersOfMembers_foldl {held members : List (Text × Value)} {n : Int}
    (inside : n ∈ integersOfMembers
      (members.foldl (fun held member => insertMember held member.1 member.2) held)) :
    n ∈ integersOfMembers held ∨ n ∈ integersOfMembers members := by
  induction members generalizing held with
  | nil => exact .inl inside
  | cons member rest ih =>
    obtain ⟨key, v⟩ := member
    rcases ih inside with early | late
    · rcases mem_integersOfMembers_insertMember early with old | new
      · exact .inl old
      · exact .inr (List.mem_append_left _ new)
    · exact .inr (List.mem_append_right _ late)

theorem mem_integers_ofMembers {members : List (Text × Value)} {n : Int}
    (inside : n ∈ (ofMembers members).integers) : n ∈ integersOfMembers members := by
  rcases mem_integersOfMembers_foldl inside with early | late
  · cases early
  · exact late

end EventScript.Value
