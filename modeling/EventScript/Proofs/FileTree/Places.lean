import EventScript.Proofs.FileTree

/-!
# Places

A path without double dots names one location, whatever there is in the tree. What it leads to
depends on nothing but that location and those on the way to it.
-/

namespace EventScript

/-- No component leads back up. -/
def Path.IsStraight (path : Path) : Prop :=
  Text.ofString ".." ∉ path.parts

instance (path : Path) : Decidable path.IsStraight :=
  inferInstanceAs (Decidable (Text.ofString ".." ∉ path.parts))

namespace FileTree

/-- The location that a straight path names, whether anything is there or not. -/
def place (tree : FileTree) (path : Path) : Location :=
  tree.origin path ++ path.parts.map encodeName

/-- Trees that hold the same at the place of a path and on the way to it. -/
structure AgreeAt (tree other : FileTree) (path : Path) : Prop where
  workingDirectory_eq : other.workingDirectory = tree.workingDirectory
  lookup_eq : ∀ way, way <+: tree.place path → other.lookup way = tree.lookup way

/-- A file at the place of `output` would neither stand at the place of the path nor on the way to
it. -/
def IsClearOf (tree : FileTree) (output path : Path) : Prop :=
  ¬tree.place output <+: tree.place path

instance (tree : FileTree) (output path : Path) : Decidable (tree.IsClearOf output path) :=
  inferInstanceAs (Decidable ¬tree.place output <+: tree.place path)

/-- Trees that hold the same, in whatever order they list it. -/
structure Same (tree other : FileTree) : Prop where
  workingDirectory_eq : other.workingDirectory = tree.workingDirectory
  lookup_eq : ∀ location, other.lookup location = tree.lookup location

/-! ## Double dots -/

/-- Every code point has bytes, and only those of a dot begin with the byte of a dot. -/
theorem exists_encodeName_cons (c : CodePoint) (t : Text) :
    ∃ b more, encodeName (c :: t) = b :: (more ++ encodeName t) ∧
      (b = 46 → c = CodePoint.ofChar '.' ∧ more = []) := by
  have low {n : Nat} (same : UInt8.ofNat n = 46) : n % 256 = 46 := by
    rw [← UInt8.toNat_ofNat', same]
    rfl
  have bound := c.val_lt
  simp only [encodeName, List.flatMap_cons]
  split
  · next escaped =>
    refine ⟨_, [], rfl, ?_⟩
    intro same
    have lead := low same
    simp only [isEscapedByte, Bool.and_eq_true, decide_eq_true_eq] at escaped
    omega
  · unfold Utf8.encodeOne
    split
    · refine ⟨_, [], rfl, ?_⟩
      intro same
      have lead := low same
      have dot : c.val = (CodePoint.ofChar '.').val := by
        change c.val = 46
        omega
      exact ⟨CodePoint.eq_of_val_eq dot, rfl⟩
    · repeat' split
      all_goals
        refine ⟨_, _, rfl, ?_⟩
        intro same
        have lead := low same
        omega

theorem eq_of_encodeName_eq_parentName {t : Text} (same : encodeName t = parentName) :
    t = Text.ofString ".." := by
  have dot {c : CodePoint} {t : Text} {bytes : Bytes}
      (written : encodeName (c :: t) = 46 :: bytes) :
      c = CodePoint.ofChar '.' ∧ encodeName t = bytes := by
    obtain ⟨b, more, divided, isDot⟩ := exists_encodeName_cons c t
    obtain ⟨rfl, rfl⟩ := List.cons.inj (divided.symm.trans written)
    obtain ⟨rfl, rfl⟩ := isDot rfl
    exact ⟨rfl, rfl⟩
  rcases t with - | ⟨first, - | ⟨second, - | ⟨third, rest⟩⟩⟩
  · cases same
  · cases (dot same).2
  · obtain ⟨rfl, others⟩ := dot same
    obtain ⟨rfl, -⟩ := dot others
    rfl
  · obtain ⟨b, more, divided, -⟩ := exists_encodeName_cons third rest
    cases divided.symm.trans (dot (dot same).2).2

theorem parentName_notMem_of_isStraight {path : Path} (straight : path.IsStraight) :
    parentName ∉ path.parts.map encodeName := by
  intro listed
  obtain ⟨part, listed, same⟩ := List.mem_map.mp listed
  rw [eq_of_encodeName_eq_parentName same] at listed
  exact straight listed

/-! ## Ways -/

variable {tree other : FileTree} {start location : Location} {names : List Bytes}

/-- Following names without double dots, only what stands at them is looked at. -/
theorem walk_eq_of_lookup (straight : parentName ∉ names)
    (same : ∀ way, way <+: names → other.lookup (start ++ way) = tree.lookup (start ++ way)) :
    other.walk start names = tree.walk start names := by
  induction names generalizing start with
  | nil => rfl
  | cons name rest ih =>
    have here : other.lookup start = tree.lookup start := by
      simpa using same [] List.nil_prefix
    have next : other.lookup (start ++ [name]) = tree.lookup (start ++ [name]) :=
      same [name] ⟨rest, rfl⟩
    have further : other.walk (start ++ [name]) rest = tree.walk (start ++ [name]) rest := by
      apply ih (fun listed => straight (List.mem_cons_of_mem name listed))
      intro way begins
      rw [List.append_assoc]
      exact same (name :: way) ((List.prefix_cons_inj name).mpr begins)
    have named : name ≠ parentName := fun up => straight (up ▸ List.mem_cons_self)
    simp only [walk, isDirectory, here, next, further, if_neg named]

theorem eq_append_of_walk (straight : parentName ∉ names)
    (walked : tree.walk start names = .ok location) : location = start ++ names := by
  induction names generalizing start with
  | nil =>
    cases walked
    exact (List.append_nil _).symm
  | cons name rest ih =>
    have named : name ≠ parentName := fun up => straight (up ▸ List.mem_cons_self)
    simp only [walk, if_neg named] at walked
    repeat' split at walked
    · cases walked
    · cases walked
    · cases walked
    · rw [ih (fun listed => straight (List.mem_cons_of_mem name listed)) walked, List.append_assoc]
      rfl

/-! ## Paths on trees that agree -/

variable {path : Path}

theorem eq_place_of_locate (straight : path.IsStraight) (led : tree.locate path = .ok location) :
    location = tree.place path := by
  unfold locate at led
  split at led
  · cases led
  · exact eq_append_of_walk (parentName_notMem_of_isStraight straight) led

/-- What a file is stored at is the place of its path. -/
theorem eq_place_of_locateTarget (straight : path.IsStraight)
    (found : tree.locateTarget path = .ok location) : location = tree.place path := by
  have noParent := parentName_notMem_of_isStraight straight
  obtain ⟨-, directory, front, name, parts, walked, -, -, -, rfl, -⟩ := locateTarget_eq_ok found
  rw [parts] at noParent
  have way := eq_append_of_walk (fun listed => noParent (List.mem_append_left _ listed)) walked
  rw [way, place, parts, List.append_assoc]

namespace AgreeAt

theorem lookup_place (agree : tree.AgreeAt other path) :
    other.lookup (tree.place path) = tree.lookup (tree.place path) :=
  agree.lookup_eq _ (List.prefix_refl _)

theorem origin_eq (agree : tree.AgreeAt other path) : other.origin path = tree.origin path := by
  unfold origin
  rw [agree.workingDirectory_eq]

theorem place_eq (agree : tree.AgreeAt other path) : other.place path = tree.place path := by
  rw [place, agree.origin_eq, place]

theorem walk_eq (agree : tree.AgreeAt other path) (straight : path.IsStraight)
    (begins : names <+: path.parts.map encodeName) :
    other.walk (other.origin path) names = tree.walk (tree.origin path) names := by
  have noParent : parentName ∉ names := fun listed =>
    parentName_notMem_of_isStraight straight (begins.mem listed)
  rw [agree.origin_eq]
  apply walk_eq_of_lookup noParent
  intro way front
  exact agree.lookup_eq _ ((List.prefix_append_right_inj _).mpr (front.trans begins))

theorem locate_eq (agree : tree.AgreeAt other path) (straight : path.IsStraight) :
    other.locate path = tree.locate path := by
  unfold locate
  rw [agree.walk_eq straight (List.prefix_refl _)]

theorem content_eq (agree : tree.AgreeAt other path) (straight : path.IsStraight) :
    other.content path = tree.content path := by
  unfold content
  rw [agree.locate_eq straight]
  cases led : tree.locate path with
  | error refusal => rfl
  | ok location => simp only [eq_place_of_locate straight led, agree.lookup_place]

theorem locateTarget_eq (agree : tree.AgreeAt other path) (straight : path.IsStraight) :
    other.locateTarget path = tree.locateTarget path := by
  unfold locateTarget
  cases last : (path.parts.map encodeName).getLast? with
  | none => rfl
  | some name =>
    obtain ⟨front, parts⟩ := List.getLast?_eq_some_iff.mp last
    have way : path.parts.dropLast.map encodeName = front := by
      rw [List.map_dropLast, parts, List.dropLast_concat]
    have begins : front <+: path.parts.map encodeName := parts ▸ List.prefix_append _ _
    simp only [way, agree.walk_eq straight begins]
    cases walked : tree.walk (tree.origin path) front with
    | error refusal => rfl
    | ok directory =>
      have noParent : parentName ∉ front := fun listed =>
        parentName_notMem_of_isStraight straight (begins.mem listed)
      have target : directory ++ [name] = tree.place path := by
        rw [eq_append_of_walk noParent walked, place, parts, List.append_assoc]
      have inside : other.isDirectory directory = tree.isDirectory directory := by
        unfold isDirectory
        rw [agree.lookup_eq directory (target ▸ List.prefix_append _ _)]
      have here : other.isDirectory (directory ++ [name]) =
          tree.isDirectory (directory ++ [name]) := by
        unfold isDirectory
        rw [target, agree.lookup_place]
      simp only [inside, here]

theorem leads_iff (agree : tree.AgreeAt other path) (straight : path.IsStraight) :
    other.Leads path ↔ tree.Leads path := by
  unfold Leads
  rw [agree.locate_eq straight]
  refine and_congr_right fun _ => exists_congr fun location => and_congr_right fun led => ?_
  rw [eq_place_of_locate straight led, agree.lookup_place]

theorem store_eq_error {bytes : Bytes} {refusal : Refusal} (agree : tree.AgreeAt other path)
    (straight : path.IsStraight) (refused : tree.store path bytes = .error refusal) :
    other.store path bytes = .error refusal := by
  unfold store at refused ⊢
  rw [agree.locateTarget_eq straight]
  split at refused
  · exact refused
  · cases refused

/-- A file that can be stored in one of the trees can be stored in the other, and wherever they held
the same they do so afterwards. -/
theorem exists_store_eq_ok {bytes : Bytes} {after : FileTree} (agree : tree.AgreeAt other path)
    (straight : path.IsStraight) (kept : tree.store path bytes = .ok after) :
    ∃ otherAfter, other.store path bytes = .ok otherAfter ∧
      ∀ location, other.lookup location = tree.lookup location →
        otherAfter.lookup location = after.lookup location := by
  obtain ⟨target, found, looked⟩ := (stored_of_store kept).lookup_eq
  have found' := (agree.locateTarget_eq straight).trans found
  have keeps : other.store path bytes = .ok (other.insert target (.file bytes)) := by
    unfold store
    rw [found']
  obtain ⟨again, foundAgain, lookedAgain⟩ := (stored_of_store keeps).lookup_eq
  obtain rfl : target = again := Except.ok.inj (found'.symm.trans foundAgain)
  refine ⟨_, keeps, ?_⟩
  intro location same
  rw [looked, lookedAgain, same]

end AgreeAt

end FileTree

end EventScript
