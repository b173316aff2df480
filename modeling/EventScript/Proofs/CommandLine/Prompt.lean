import EventScript.CommandLine.Prompt

/-!
# What is typed at the prompt

The first typed item that decides anything decides the question. Whatever is typed before it only
has the question asked again, and after the last item the input is finished, which decides too.
Input that is no text breaks the prompt down.
-/

namespace EventScript.CommandLine

/-- An empty line grants, as `y` does in either case and between blanks; `n`, the end of the input
and an interruption deny. -/
inductive Typed.Decides : Typed → Except Breakdown Bool → Prop
  | empty {t : Text} (nothing : withoutFeed t = []) : Decides (.line t) (.ok true)
  | yes {t : Text} (word : (withoutFeed t).strip.lower = "y") : Decides (.line t) (.ok true)
  | no {t : Text} (word : (withoutFeed t).strip.lower = "n") : Decides (.line t) (.ok false)
  | finished : Decides .finished (.ok false)
  | interrupted : Decides .interrupted (.ok false)
  | garbled {fault : Utf8.Fault} : Decides (.garbled fault) (.error (.garbledInput fault))

/-- The first of the items that decides, or the end of the input after them, decides this way. -/
def Answers (typed : List Typed) (answer : Except Breakdown Bool) : Prop :=
  ∃ before item after, typed ++ [.finished] = before ++ item :: after ∧
    (∀ other ∈ before, ∀ verdict, ¬other.Decides verdict) ∧ item.Decides answer

theorem decides_line_iff {t : Text} {answer : Except Breakdown Bool} :
    (Typed.line t).Decides answer ↔
      ∃ granted, answer = .ok granted ∧ verdict? (withoutFeed t) = some granted := by
  unfold verdict?
  constructor
  · intro decides
    cases decides with
    | empty nothing => exact ⟨true, rfl, by rw [if_pos nothing]⟩
    | yes word =>
      refine ⟨true, rfl, ?_⟩
      split
      · rfl
      · simp only [word, if_true]
    | no word =>
      have something : withoutFeed t ≠ [] := by
        intro nothing
        rw [nothing] at word
        cases word
      have other : Text.ofString "n" ≠ Text.ofString "y" := by decide
      refine ⟨false, rfl, ?_⟩
      simp only [if_neg something, word, if_neg other, if_true]
  · rintro ⟨granted, rfl, verdict⟩
    split at verdict
    · next nothing =>
      cases verdict
      exact .empty nothing
    · simp only at verdict
      split at verdict
      · next word =>
        cases verdict
        exact .yes word
      · split at verdict
        · next word =>
          cases verdict
          exact .no word
        · cases verdict

theorem Typed.Decides.unique {item : Typed} {answer other : Except Breakdown Bool}
    (decides : item.Decides answer) (also : item.Decides other) : answer = other := by
  cases item with
  | line t =>
    obtain ⟨granted, rfl, verdict⟩ := decides_line_iff.mp decides
    obtain ⟨same, rfl, verdictToo⟩ := decides_line_iff.mp also
    rw [Option.some.inj (verdict.symm.trans verdictToo)]
  | finished | interrupted | garbled =>
    cases decides
    cases also
    rfl

/-- The typed items decide in one way only. -/
theorem Answers.unique {typed : List Typed} {answer other : Except Breakdown Bool}
    (answers : Answers typed answer) (also : Answers typed other) : answer = other := by
  obtain ⟨before, item, after, divided, undecided, decides⟩ := answers
  obtain ⟨before', item', after', divided', undecided', decides'⟩ := also
  rw [divided] at divided'
  rcases List.append_eq_append_iff.mp divided' with ⟨gap, rfl, same⟩ | ⟨gap, rfl, same⟩
  · cases gap with
    | nil =>
      cases same
      exact decides.unique decides'
    | cons first gap =>
      cases same
      exact absurd decides (undecided' item (by simp) answer)
  · cases gap with
    | nil =>
      cases same
      exact decides.unique decides'
    | cons first gap =>
      cases same
      exact absurd decides' (undecided item' (by simp) other)

/-- What is shown for an item that decides nothing, before the question is asked again. -/
def repetition (prompt : Text) : List Event :=
  [.shown prompt, .shown "Please enter Y or N\n"]

/-- What may be shown once the question is decided. -/
def closings : List (List Event) :=
  [[.promptClosed], [.promptClosed, .shown "\n"], [.awaited, .promptClosed, .shown "\n"]]

/-- The question is asked once for each item up to the one that decides it, and never after. -/
theorem answerFrom_eq (prompt : Text) (typed : List Typed) :
    ∃ before item after closing, typed ++ [.finished] = before ++ item :: after ∧
      (∀ other ∈ before, ∀ verdict, ¬other.Decides verdict) ∧
      item.Decides (answerFrom prompt typed).answer ∧ closing ∈ closings ∧
      (answerFrom prompt typed).events =
        before.flatMap (fun _ => repetition prompt) ++ .shown prompt :: closing := by
  induction typed with
  | nil => exact ⟨[], .finished, [], _, rfl, nofun, .finished, by simp [closings], rfl⟩
  | cons item rest ih =>
    cases item with
    | finished => exact ⟨[], .finished, _, _, rfl, nofun, .finished, by simp [closings], rfl⟩
    | interrupted =>
      exact ⟨[], .interrupted, _, _, rfl, nofun, .interrupted, by simp [closings], rfl⟩
    | garbled fault =>
      exact ⟨[], .garbled fault, _, _, rfl, nofun, .garbled, by simp [closings], rfl⟩
    | line t =>
      cases verdict : verdict? (withoutFeed t) with
      | some granted =>
        refine ⟨[], .line t, _, [.promptClosed], rfl, nofun, ?_, by simp [closings], ?_⟩
        · rw [decides_line_iff, answerFrom, verdict]
          exact ⟨granted, rfl, rfl⟩
        · rw [answerFrom, verdict]
          rfl
      | none =>
        obtain ⟨before, item, after, closing, divided, undecided, decides, closes, shown⟩ := ih
        refine ⟨.line t :: before, item, after, closing, by simp [divided], ?_, ?_, closes, ?_⟩
        · intro other membership
          rcases List.mem_cons.mp membership with rfl | later
          · intro answer decidesToo
            obtain ⟨granted, -, said⟩ := decides_line_iff.mp decidesToo
            cases verdict.symm.trans said
          · exact undecided other later
        · rw [answerFrom, verdict]
          exact decides
        · rw [answerFrom, verdict, List.flatMap_cons, List.append_assoc, ← shown]
          rfl

/-- A prompt is answered as the first decisive item says. -/
theorem answer_answerFrom_iff {prompt : Text} {typed : List Typed}
    {answer : Except Breakdown Bool} :
    (answerFrom prompt typed).answer = answer ↔ Answers typed answer := by
  obtain ⟨before, item, after, -, divided, undecided, decides, -, -⟩ := answerFrom_eq prompt typed
  have answers : Answers typed (answerFrom prompt typed).answer :=
    ⟨before, item, after, divided, undecided, decides⟩
  constructor
  · rintro rfl
    exact answers
  · intro other
    exact answers.unique other

end EventScript.CommandLine
