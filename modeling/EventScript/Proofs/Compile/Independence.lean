import EventScript.Proofs.Compile.AllOrNothing
import EventScript.Proofs.Compile.Outcomes
import EventScript.Proofs.FileTree.Places

/-!
# Independent compiles

A compile looks at the places of its source and its output and at the ways there, and changes
nothing but the place of its output. Two compiles of which neither writes where the other looks can
be run in either order.
-/

namespace EventScript

open FileTree

variable {tree other : FileTree} {path source target : Path} {config : Script.Config}

/-! ## Writing -/

namespace Job

variable {script : Bytes} {answer : Except Breakdown Bool} {after otherAfter : FileTree}
  {result otherResult : Except Failure Nat}

theorem Writes.workingDirectory_eq (writes : Writes tree path script answer after result) :
    after.workingDirectory = tree.workingDirectory := by
  cases writes with
  | unspeakable | outOfReach | declined | unanswered | unwritable => rfl
  | stored _ _ _ kept => exact (stored_of_store kept).workingDirectory_eq

/-- Writing leaves everything alone but the place of its path. -/
theorem Writes.lookup_eq (writes : Writes tree path script answer after result)
    (straight : path.IsStraight) {location : Location} (elsewhere : location ≠ tree.place path) :
    after.lookup location = tree.lookup location := by
  cases writes with
  | unspeakable | outOfReach | declined | unanswered | unwritable => rfl
  | stored _ _ _ kept =>
    by_contra changed
    exact elsewhere (eq_place_of_locateTarget straight (locateTarget_of_store kept changed))

/-- Writing goes the same way on trees that agree about its path, and where these held the same they
still do. -/
theorem Writes.agree (writes : Writes tree path script answer after result)
    (others : Writes other path script answer otherAfter otherResult)
    (agree : tree.AgreeAt other path) (straight : path.IsStraight) :
    otherResult = result ∧ ∀ location, other.lookup location = tree.lookup location →
      otherAfter.lookup location = after.lookup location := by
  have near : other.IsOutOfReach path ↔ tree.IsOutOfReach path := by
    unfold IsOutOfReach
    rw [agree.locate_eq straight]
  have leads := agree.leads_iff straight
  have target := agree.locateTarget_eq straight
  cases writes with
  | unspeakable refused =>
    obtain ⟨rfl, rfl⟩ := others.eq_of_unspeakable refused
    exact ⟨rfl, fun _ => id⟩
  | outOfReach beyond =>
    obtain ⟨rfl, rfl⟩ := others.eq_of_isOutOfReach (near.mpr beyond)
    exact ⟨rfl, fun _ => id⟩
  | declined existing denied =>
    obtain ⟨rfl, rfl⟩ := others.eq_of_denied (leads.mpr existing) denied
    exact ⟨rfl, fun _ => id⟩
  | unanswered existing broke =>
    obtain ⟨rfl, rfl⟩ := others.eq_of_unanswered (leads.mpr existing) broke
    exact ⟨rfl, fun _ => id⟩
  | unwritable speakable within allowed refused =>
    obtain ⟨rfl, rfl⟩ := others.eq_of_unwritable speakable (near.not.mpr within)
      (fun existing => allowed (leads.mp existing)) (agree.store_eq_error straight refused)
    exact ⟨rfl, fun _ => id⟩
  | stored speakable within allowed kept =>
    obtain ⟨stored, keeps, same⟩ := agree.exists_store_eq_ok straight kept
    obtain ⟨rfl, rfl⟩ := others.eq_of_store speakable (near.not.mpr within)
      (fun existing => allowed (leads.mp existing)) keeps
    exact ⟨rfl, same⟩

end Job

/-! ## Compiling -/

/-- A compile as it is asked for. -/
structure CompileRequest where
  levels : Option Nat
  source : Path
  target : Path
  config : Script.Config
  consent : Option Consent
  listened : Bool

namespace CompileRequest

def run (request : CompileRequest) : Job Summary :=
  compileFile request.levels request.source request.target request.config request.consent
    request.listened

/-- Neither path leads back up. -/
structure IsStraight (request : CompileRequest) : Prop where
  source : request.source.IsStraight
  target : request.target.IsStraight

variable {request first second : CompileRequest}

theorem compilationOf_eq (agree : tree.AgreeAt other request.source)
    (straight : request.IsStraight) :
    compilationOf request.levels other request.source request.config =
      compilationOf request.levels tree request.source request.config := by
  unfold compilationOf Source.rowsOfFile Source.contentOf
  rw [agree.content_eq straight.source]

theorem run_of_error {failure : Failure}
    (unmade : compilationOf request.levels tree request.source request.config = .error failure) :
    (request.run tree).tree = tree ∧ (request.run tree).result = .error failure := by
  obtain ⟨events, -, ran⟩ :=
    compileFile_apply_error unmade request.target request.consent request.listened
  rw [run, ran]
  exact ⟨rfl, rfl⟩

/-- With its script made, a compile does to the tree what writing does. -/
theorem exists_writes_of_ok {compilation : Compilation}
    (made : compilationOf request.levels tree request.source request.config = .ok compilation) :
    ∃ written, Job.Writes tree request.target compilation.script
        (Job.answerOf request.target request.consent) (request.run tree).tree written ∧
      (request.run tree).result = written.map fun size =>
        ⟨request.source, request.target, compilation.rows.length, compilation.rows.length,
          size⟩ := by
  obtain ⟨before, told, -, -, ran⟩ := compileFile_apply (compilationOf_eq_ok_iff.mp made)
    request.target request.consent request.listened
  rw [run, ran]
  exact ⟨_, Job.writes_writeScript _ _ _ _, rfl⟩

theorem workingDirectory_run (request : CompileRequest) (tree : FileTree) :
    (request.run tree).tree.workingDirectory = tree.workingDirectory := by
  cases making : compilationOf request.levels tree request.source request.config with
  | error failure => rw [(run_of_error making).1]
  | ok compilation =>
    obtain ⟨written, writes, -⟩ := exists_writes_of_ok making
    exact writes.workingDirectory_eq

/-- A compile leaves everything alone but the place of its output. -/
theorem lookup_run (straight : request.IsStraight) {location : Location}
    (elsewhere : location ≠ tree.place request.target) :
    (request.run tree).tree.lookup location = tree.lookup location := by
  cases making : compilationOf request.levels tree request.source request.config with
  | error failure => rw [(run_of_error making).1]
  | ok compilation =>
    obtain ⟨written, writes, -⟩ := exists_writes_of_ok making
    exact writes.lookup_eq straight.target elsewhere

/-- A compile goes the same way on trees that agree about its source and its output, and where these
held the same they still do. -/
theorem run_of_agreeAt (straight : request.IsStraight)
    (sourceAgree : tree.AgreeAt other request.source)
    (targetAgree : tree.AgreeAt other request.target) :
    (request.run other).result = (request.run tree).result ∧
      ∀ location, other.lookup location = tree.lookup location →
        (request.run other).tree.lookup location = (request.run tree).tree.lookup location := by
  have makingToo := compilationOf_eq sourceAgree straight
  cases making : compilationOf request.levels tree request.source request.config with
  | error failure =>
    obtain ⟨kept, ended⟩ := run_of_error making
    obtain ⟨otherKept, otherEnded⟩ := run_of_error (makingToo.trans making)
    rw [kept, ended, otherKept, otherEnded]
    exact ⟨rfl, fun _ => id⟩
  | ok compilation =>
    obtain ⟨written, writes, ended⟩ := exists_writes_of_ok making
    obtain ⟨otherWritten, otherWrites, otherEnded⟩ := exists_writes_of_ok (makingToo.trans making)
    obtain ⟨rfl, held⟩ := writes.agree otherWrites targetAgree straight.target
    exact ⟨otherEnded.trans ended.symm, held⟩

/-! ## Two compiles -/

/-- The output of `first` is clear of what `second` looks at. -/
structure IsClearOf (tree : FileTree) (first second : CompileRequest) : Prop where
  source : tree.IsClearOf first.target second.source
  target : tree.IsClearOf first.target second.target

/-- What a compile leaves behind agrees with what was there about every path that its output is
clear of. -/
theorem agreeAt_run (straight : request.IsStraight) (clear : tree.IsClearOf request.target path) :
    tree.AgreeAt (request.run tree).tree path := by
  refine ⟨workingDirectory_run request tree, ?_⟩
  intro way begins
  apply lookup_run straight
  rintro rfl
  exact clear begins

/-- After a compile that is clear of it another goes as if it were the first. -/
theorem run_run (firstStraight : first.IsStraight) (secondStraight : second.IsStraight)
    (clear : IsClearOf tree first second) :
    (second.run (first.run tree).tree).result = (second.run tree).result ∧
      ∀ location, (first.run tree).tree.lookup location = tree.lookup location →
        (second.run (first.run tree).tree).tree.lookup location =
          (second.run tree).tree.lookup location :=
  run_of_agreeAt secondStraight (agreeAt_run firstStraight clear.source)
    (agreeAt_run firstStraight clear.target)

/-- Where the first compile writes nothing, what there is after both depends on the second alone. -/
theorem lookup_run_run (firstStraight : first.IsStraight) (secondStraight : second.IsStraight)
    (clear : IsClearOf tree first second) (clear' : IsClearOf tree second first)
    {location : Location} (elsewhere : location ≠ tree.place first.target) :
    (second.run (first.run tree).tree).tree.lookup location =
      (first.run (second.run tree).tree).tree.lookup location := by
  have place_eq := (agreeAt_run secondStraight clear'.target).place_eq
  calc (second.run (first.run tree).tree).tree.lookup location
      = (second.run tree).tree.lookup location :=
        (run_run firstStraight secondStraight clear).2 location (lookup_run firstStraight elsewhere)
    _ = (first.run (second.run tree).tree).tree.lookup location :=
        (lookup_run firstStraight (place_eq ▸ elsewhere)).symm

/-- Two compiles whose outputs are clear of what the other looks at end in the same way and leave
the same files, whichever is run first. -/
theorem run_comm (firstStraight : first.IsStraight) (secondStraight : second.IsStraight)
    (clear : IsClearOf tree first second) (clear' : IsClearOf tree second first) :
    (first.run (second.run tree).tree).result = (first.run tree).result ∧
      (second.run (first.run tree).tree).result = (second.run tree).result ∧
      (second.run (first.run tree).tree).tree.Same (first.run (second.run tree).tree).tree := by
  refine ⟨(run_run secondStraight firstStraight clear').1,
    (run_run firstStraight secondStraight clear).1, ?_, ?_⟩
  · simp only [workingDirectory_run]
  · intro location
    by_cases here : location = tree.place first.target
    · have elsewhere : location ≠ tree.place second.target := by
        rintro same
        rw [here] at same
        exact clear.target (same ▸ List.prefix_refl _)
      exact lookup_run_run secondStraight firstStraight clear' clear elsewhere
    · exact (lookup_run_run firstStraight secondStraight clear clear' here).symm

/-- A source, and a script that no one allows to be replaced. -/
def guardedTree : FileTree where
  entries :=
    [([encodeName "a.csv"], .file ((Text.ofString "-1,hud,,,say,😀\r").flatMap Utf8.encodeOne)),
      ([encodeName "b.sdf"], .file Script.magic)]
  workingDirectory := []

theorem run_comm_guardedTree :
    let first : CompileRequest :=
      ⟨none, Path.ofText "a.csv", Path.ofText "./a.sdf", ⟨"0.1.0", Script.magic⟩, none, true⟩
    let second : CompileRequest :=
      ⟨none, Path.ofText "/a.csv", Path.ofText "b.sdf", ⟨"0.2", Script.magic⟩, none, false⟩
    first.IsStraight ∧ second.IsStraight ∧ IsClearOf guardedTree first second ∧
      IsClearOf guardedTree second first ∧
      (first.run (second.run guardedTree).tree).result =
        .ok ⟨Path.ofText "a.csv", Path.ofText "a.sdf", 1, 1, 36⟩ ∧
      (second.run (first.run guardedTree).tree).result =
        .error (.refused (.declined (Path.ofText "b.sdf"))) ∧
      (second.run (first.run guardedTree).tree).tree.Same
        (first.run (second.run guardedTree).tree).tree := by
  intro first second
  have firstStraight : first.IsStraight := ⟨by decide, by decide⟩
  have secondStraight : second.IsStraight := ⟨by decide, by decide⟩
  have clear : IsClearOf guardedTree first second := ⟨by decide, by decide⟩
  have clear' : IsClearOf guardedTree second first := ⟨by decide, by decide⟩
  have compiled : (first.run guardedTree).result =
      .ok ⟨Path.ofText "a.csv", Path.ofText "a.sdf", 1, 1, 36⟩ :=
    Except.eq_ok_of_toOption (by decide +kernel)
  have declined : (second.run guardedTree).result =
      .error (.refused (.declined (Path.ofText "b.sdf"))) := by
    have leads : guardedTree.Leads (Path.ofText "b.sdf") := ⟨rfl, [encodeName "b.sdf"], rfl, rfl⟩
    have makes : (compilationOf none guardedTree second.source second.config).toOption.isSome =
        true := by
      decide +kernel
    obtain ⟨compilation, given⟩ := Option.isSome_iff_exists.mp makes
    obtain ⟨written, writes, ended⟩ := exists_writes_of_ok (Except.eq_ok_of_toOption given)
    rw [ended, (writes.eq_of_denied leads rfl).2]
    rfl
  obtain ⟨firstSame, secondSame, same⟩ := run_comm firstStraight secondStraight clear clear'
  exact ⟨firstStraight, secondStraight, clear, clear', firstSame.trans compiled,
    secondSame.trans declined, same⟩

end CompileRequest

end EventScript
