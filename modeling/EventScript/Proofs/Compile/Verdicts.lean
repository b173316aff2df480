import EventScript.Proofs.Compile.Outcomes
import EventScript.Proofs.Json.Nesting
import EventScript.Proofs.Source.Agreement

/-!
# Verdicts on a source text

As long as no file is involved, a source is compiled or refused, and every refusal is about what the
text holds or about the settings of its script. No number is too long for any of this; only brackets
may be nested too deeply for the reader.
-/

namespace EventScript

variable {levels : Option Nat} {format : SourceFormat} {t : Text} {config : Script.Config}
  {tree : FileTree}

theorem settles_compileText
    (flat : ∀ container,
      Source.rowsOfText levels format t ≠ .error (.brokeDown (.nesting container)))
    (config : Script.Config) :
    Settles [.parsing, .validating, .encoding] (fun _ => True)
      ((Source.rowsOfText levels format t).bind fun rows => compileRows rows config) := by
  apply (Source.settles_rowsOfText flat).bind_append
  intro rows writable
  exact settles_compileRows writable config

/-- A text is nested too deeply if it is JSON and the reader says so. -/
theorem rowsOfText_eq_nesting_iff {container : Json.Container} :
    Source.rowsOfText levels format t = .error (.brokeDown (.nesting container)) ↔
      format = .json ∧ Json.read levels t = .error (.nested container) := by
  cases format with
  | csv =>
    constructor
    · exact fun failed => absurd failed ((Source.settles_rowsOfCsv t).ne_brokeDown _)
    · rintro ⟨other, -⟩
      cases other
  | json =>
    rw [and_iff_right rfl]
    exact Source.rowsOfJson_eq_nesting_iff

/-- A compile breaks down only where its text does. -/
theorem compileText_eq_brokeDown_iff {breakdown : Breakdown} :
    (Job.compileText levels format t config tree).result = .error (.brokeDown breakdown) ↔
      ∃ container, breakdown = .nesting container ∧ format = .json ∧
        Json.read levels t = .error (.nested container) := by
  rw [(Job.quiet_compileText levels format t config tree).result_eq]
  constructor
  · intro broke
    by_contra flat
    refine (settles_compileText ?_ config).ne_brokeDown breakdown broke
    intro container nests
    rw [nests] at broke
    cases broke
    exact flat ⟨container, rfl, rowsOfText_eq_nesting_iff.mp nests⟩
  · rintro ⟨container, rfl, nests⟩
    rw [rowsOfText_eq_nesting_iff.mpr nests]
    rfl

/-- Whatever the text and the settings, a compile ends with a result, with a refusal by one of its
stages, or where a JSON text opens one list or dictionary more than the reader can follow. No
integer of a source is ever longer than a literal that is loaded exactly. -/
theorem compileText_verdict (levels : Option Nat) (format : SourceFormat) (t : Text)
    (config : Script.Config) (tree : FileTree) :
    let result := (Job.compileText levels format t config tree).result
    (∀ refusal, result = .error (.refused refusal) →
      refusal.stage ∈ [Stage.parsing, .validating, .encoding]) ∧
    (∀ breakdown, result = .error (.brokeDown breakdown) ↔
      ∃ container, breakdown = .nesting container ∧ format = .json ∧
        Json.read levels t = .error (.nested container)) ∧
    ∀ rows, Source.rowsOfText levels format t = .ok rows →
      ∀ row ∈ rows, ∀ cell ∈ row, ∀ n ∈ cell.integers, (Numeral.write n).length ≤ 4000 := by
  intro result
  refine ⟨?_, fun _ => compileText_eq_brokeDown_iff, ?_⟩
  · intro refusal failed
    have result_eq := (Job.quiet_compileText levels format t config tree).result_eq
    have settles : Settles [.parsing, .validating, .encoding] (fun _ => True) result := by
      rw [show result = _ from result_eq]
      apply settles_compileText
      intro container nests
      rw [nests] at result_eq
      cases failed.symm.trans result_eq
    rw [failed] at settles
    exact settles.stage_mem
  · intro rows read row given cell listed n inside
    cases format with
    | csv =>
      obtain ⟨fields, -, rfl⟩ := Source.exists_read_of_rowsOfCsv read
      rw [Source.integers_eq_nil_of_mem_cellRows given listed] at inside
      cases inside
    | json =>
      exact (Source.isLoaded_of_rowsOfJson read row given cell listed n inside).length_write_le

/-- A hundred thousand brackets are not refused. -/
theorem not_forall_compileText_refused :
    ¬∀ (format : SourceFormat) (t : Text) (config : Script.Config) (tree : FileTree)
        (failure : Failure),
      (Job.compileText (some Json.usualLevels) format t config tree).result = .error failure →
      ∃ refusal, failure = .refused refusal := by
  intro refuses
  let brackets (count : Nat) : Text := List.replicate count (.ofChar '[')
  have nested : Json.read (some Json.usualLevels) (brackets 100000) = .error (.nested .list) := by
    have cut : brackets 100000 = brackets (Json.usualLevels + 1) ++ brackets 99009 :=
      List.replicate_add (Json.usualLevels + 1) 99009 _
    rw [cut]
    exact Json.read_openings Json.usualLevels _
  obtain ⟨refusal, refused⟩ := refuses .json (brackets 100000) ⟨[], []⟩ ⟨[], []⟩ _
    (compileText_eq_brokeDown_iff.mpr ⟨.list, rfl, rfl, nested⟩)
  cases refused

end EventScript
