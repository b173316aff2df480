import EventScript.Text.Quoted

/-!
# Paths

A path is its components. Empty components and single dots say nothing and are dropped; double dots
are kept, because what they undo depends on the files there are.
-/

namespace EventScript

/-- Where a path starts. Two leading slashes are kept apart from one; more than two are one. -/
inductive Anchor
  | relative
  | root
  | doubleRoot
  deriving DecidableEq, Repr

structure Path where
  anchor : Anchor
  parts : List Text
  deriving DecidableEq, Repr

namespace Path

/-- A piece that names something: neither empty nor a single dot. -/
def isComponent (segment : Text) : Bool :=
  segment ≠ [] && segment ≠ Text.ofString "."

def anchorOf (t : Text) : Anchor :=
  match (t.takeWhile fun (c : CodePoint) => c = '/').length with
  | 0 => .relative
  | 2 => .doubleRoot
  | _ => .root

def ofText (t : Text) : Path where
  anchor := anchorOf t
  parts := (Text.splitOn '/' t).filter isComponent

def Anchor.text : Anchor → Text
  | .relative => []
  | .root => "/"
  | .doubleRoot => "//"

/-- A path that says nothing is shown as a single dot. -/
def toText (p : Path) : Text :=
  match p.anchor, p.parts with
  | .relative, [] => "."
  | anchor, parts => Anchor.text anchor ++ Text.joinWith "/" parts

/-- The last component, or nothing. -/
def name (p : Path) : Text :=
  p.parts.getLast?.getD []

theorem length_name_ofText_le (t : Text) : (ofText t).name.length ≤ t.length := by
  unfold name
  cases h : (ofText t).parts.getLast? with
  | none => simp
  | some last =>
    exact Text.length_le_of_mem_splitOn (List.mem_filter.mp (List.mem_of_getLast? h)).1

def parent (p : Path) : Path :=
  { p with parts := p.parts.dropLast }

/-- The path of `name`, a single component, in the directory `p`. -/
def child (p : Path) (name : Text) : Path :=
  { p with parts := p.parts ++ [name] }

/-- A name divided at its last dot into stem and extension, the dot going to the extension. Neither
a dot at the start of a name nor one at its end begins an extension. -/
def splitExtension? (name : Text) : Option (Text × Text) :=
  let extension := (name.reverse.takeWhile fun (c : CodePoint) => c ≠ '.').reverse
  let stem := ((name.reverse.dropWhile fun (c : CodePoint) => c ≠ '.').drop 1).reverse
  if stem = [] ∨ extension = [] then none else some (stem, '.' :: extension)

theorem length_lt_of_splitExtension? {name stem extension : Text}
    (h : splitExtension? name = some (stem, extension)) : stem.length < name.length := by
  simp only [splitExtension?] at h
  have divided := congrArg List.length
    (List.takeWhile_append_dropWhile (p := fun (c : CodePoint) => decide (c ≠ '.'))
      (l := name.reverse))
  simp only [List.length_append, List.length_reverse] at divided
  split at h
  · contradiction
  · next nonempty =>
    simp only [Option.some.injEq, Prod.mk.injEq] at h
    obtain ⟨rfl, -⟩ := h
    simp only [not_or, List.reverse_eq_nil_iff] at nonempty
    have := List.length_pos_iff.mpr nonempty.2
    simp only [List.length_reverse, List.length_drop]
    omega

/-- The extension of the last component with its dot, or nothing. -/
def extension (p : Path) : Text :=
  match splitExtension? p.name with
  | some (_, extension) => extension
  | none => []

end Path

end EventScript
