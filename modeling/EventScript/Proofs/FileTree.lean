import EventScript.FileTree

/-!
# Storing files

A stored file is found again by its path, and every other location leads to what it led to before.
Ways through the tree survive because a file only takes the place of a file or of nothing.
-/

namespace EventScript.FileTree

/-- A path that leads to a file or directory. -/
def Leads (tree : FileTree) (path : Path) : Prop :=
  unspeakable? path.toText = none ∧
    ∃ location, tree.locate path = .ok location ∧ (tree.lookup location).isSome = true

theorem walk_append (tree : FileTree) (start : Location) (front back : List Bytes) :
    tree.walk start (front ++ back) =
      (tree.walk start front).bind fun location => tree.walk location back := by
  induction front generalizing start with
  | nil => rfl
  | cons name rest ih =>
    simp only [List.cons_append, walk]
    repeat' split
    all_goals first
      | rfl
      | exact ih _

theorem isDirectory_insert_of_ne {tree : FileTree} {target location : Location} {node : Node}
    (below : target ≠ []) (other : location ≠ target) :
    (tree.insert target node).isDirectory location = tree.isDirectory location := by
  unfold isDirectory
  rw [lookup_insert tree below, if_neg other]

/-- A way that does not lead through a location is not affected by what is put there. -/
theorem walk_insert {tree : FileTree} {target start location : Location} {node : Node}
    {names : List Bytes} (below : target ≠ []) (replaceable : tree.isDirectory target = false)
    (walked : tree.walk start names = .ok location) :
    (tree.insert target node).walk start names = .ok location := by
  induction names generalizing start with
  | nil => exact walked
  | cons name rest ih =>
    simp only [walk] at walked ⊢
    split at walked
    · cases walked
    · next directory =>
      have onWay : start ≠ target := by
        rintro rfl
        simp [replaceable] at directory
      rw [isDirectory_insert_of_ne below onWay, if_neg directory]
      split at walked
      · next up => rw [if_pos up]; exact ih walked
      · next down =>
        rw [if_neg down]
        split at walked
        · cases walked
        · next short =>
          rw [if_neg short]
          split at walked
          · cases walked
          · next present =>
            have kept : ¬((tree.insert target node).lookup (start ++ [name])).isNone = true := by
              rw [lookup_insert tree below]
              split
              · exact nofun
              · exact present
            rw [if_neg kept]
            exact ih walked

/-- Where writing a file goes: into a directory, under a name that is no directory there. -/
theorem locateTarget_eq_ok {tree : FileTree} {path : Path} {location : Location}
    (found : tree.locateTarget path = .ok location) :
    isTooLong path = false ∧ ∃ directory front name,
      path.parts.map encodeName = front ++ [name] ∧
      tree.walk (tree.origin path) front = .ok directory ∧ tree.isDirectory directory = true ∧
      name ≠ parentName ∧ name.length ≤ nameLimit ∧ location = directory ++ [name] ∧
      tree.isDirectory location = false := by
  unfold locateTarget at found
  split at found
  · cases found
  · next short =>
    refine ⟨by simpa using short, ?_⟩
    split at found
    · cases found
    · next name last =>
      split at found
      · cases found
      · next directory walked =>
        repeat' split at found
        all_goals cases found
        next inside named bounded free =>
        obtain ⟨front, parts⟩ := List.getLast?_eq_some_iff.mp last
        have way : path.parts.dropLast.map encodeName = front := by
          rw [List.map_dropLast, parts, List.dropLast_concat]
        rw [way] at walked
        exact ⟨directory, front, name, parts, walked, by simpa using inside, named, by omega, rfl,
          by simpa using free⟩

theorem walk_singleton {tree : FileTree} {directory : Location} {name : Bytes}
    (inside : tree.isDirectory directory = true) (named : name ≠ parentName)
    (short : name.length ≤ nameLimit)
    (present : (tree.lookup (directory ++ [name])).isSome = true) :
    tree.walk directory [name] = .ok (directory ++ [name]) := by
  have found : ¬(tree.lookup (directory ++ [name])).isNone = true := by
    rw [← Option.not_isSome, present]
    exact nofun
  simp only [walk, inside, Bool.not_true, Bool.false_eq_true, if_false, if_neg named,
    if_neg (Nat.not_lt.mpr short), if_neg found]

/-- The path of a file that is stored leads to it. -/
theorem locate_insert_of_locateTarget {tree : FileTree} {path : Path} {location : Location}
    {bytes : Bytes} (found : tree.locateTarget path = .ok location) :
    (tree.insert location (.file bytes)).locate path = .ok location := by
  obtain ⟨short, directory, front, name, parts, walked, inside, named, bounded, rfl, free⟩ :=
    locateTarget_eq_ok found
  have below : directory ++ [name] ≠ [] := by simp
  have other : directory ≠ directory ++ [name] := by simp
  have start : (tree.insert (directory ++ [name]) (.file bytes)).origin path = tree.origin path :=
    rfl
  unfold locate
  rw [short, parts, start, walk_append, walk_insert below free walked]
  simp only [Bool.false_eq_true, if_false, Except.bind]
  apply walk_singleton _ named bounded
  · rw [lookup_insert tree below, if_pos rfl]
    rfl
  · rw [isDirectory_insert_of_ne below other]
    exact inside

/-- What storing does to a tree: the path holds the bytes, and nothing else is touched. -/
structure Stored (tree after : FileTree) (path : Path) (bytes : Bytes) : Prop where
  content_eq : after.content path = .ok bytes
  workingDirectory_eq : after.workingDirectory = tree.workingDirectory
  lookup_eq : ∃ location, tree.locateTarget path = .ok location ∧
    ∀ other, after.lookup other = if other = location then some (.file bytes) else tree.lookup other

theorem stored_of_store {tree after : FileTree} {path : Path} {bytes : Bytes}
    (kept : tree.store path bytes = .ok after) : tree.Stored after path bytes := by
  unfold store at kept
  split at kept
  · cases kept
  · next location found =>
    cases kept
    obtain ⟨-, directory, front, name, -, -, -, -, -, same, -⟩ := locateTarget_eq_ok found
    have below : location ≠ [] := by simp [same]
    have looked := lookup_insert tree below (.file bytes)
    refine ⟨?_, rfl, location, found, looked⟩
    unfold content
    rw [locate_insert_of_locateTarget found]
    simp only [looked, if_true]

/-- Whether a file can be stored does not depend on what is in it. -/
theorem exists_store_of_store {tree after : FileTree} {path : Path} {bytes : Bytes}
    (kept : tree.store path bytes = .ok after) (other : Bytes) :
    ∃ stored, tree.store path other = .ok stored := by
  unfold store at kept ⊢
  cases found : tree.locateTarget path with
  | error refusal =>
    rw [found] at kept
    cases kept
  | ok location => exact ⟨_, rfl⟩

theorem vacant_of_walk_singleton {tree : FileTree} {directory : Location} {name : Bytes}
    (missing : tree.walk directory [name] = .error .missing) :
    tree.isDirectory directory = true ∧ name ≠ parentName ∧ name.length ≤ nameLimit ∧
      tree.lookup (directory ++ [name]) = none := by
  simp only [walk] at missing
  split at missing
  · cases missing
  · next inside =>
    split at missing
    · cases missing
    · next named =>
      split at missing
      · cases missing
      · next bounded =>
        split at missing
        · next absent =>
          exact ⟨by simpa using inside, named, by omega, Option.isNone_iff_eq_none.mp absent⟩
        · cases missing

/-- Where the system finds nothing in a directory that exists, there is room for a file. -/
theorem exists_store_eq_ok {tree : FileTree} {path : Path} {directory : Location}
    (missing : tree.locate path = .error .missing)
    (parent : tree.locate path.parent = .ok directory) (bytes : Bytes) :
    ∃ after, tree.store path bytes = .ok after := by
  unfold locate at missing parent
  split at missing
  · cases missing
  · next short =>
    split at parent
    · cases parent
    · have way : path.parent.parts.map encodeName = (path.parts.map encodeName).dropLast :=
        List.map_dropLast
      rw [way, show tree.origin path.parent = tree.origin path from rfl] at parent
      cases last : (path.parts.map encodeName).getLast? with
      | none =>
        rw [List.getLast?_eq_none_iff.mp last] at missing
        cases missing
      | some name =>
        obtain ⟨front, parts⟩ := List.getLast?_eq_some_iff.mp last
        rw [parts, List.dropLast_concat] at parent
        rw [parts, walk_append, parent] at missing
        obtain ⟨inside, named, bounded, absent⟩ := vacant_of_walk_singleton missing
        have free : tree.isDirectory (directory ++ [name]) = false := by
          simp [isDirectory, absent]
        have target : tree.locateTarget path = .ok (directory ++ [name]) := by
          unfold locateTarget
          rw [if_neg short, last]
          simp only [List.map_dropLast, parts, List.dropLast_concat, parent, inside,
            Bool.not_true, Bool.false_eq_true, if_false, if_neg named,
            if_neg (Nat.not_lt.mpr bounded), free]
        unfold store
        rw [target]
        exact ⟨_, rfl⟩

end EventScript.FileTree
