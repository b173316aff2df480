import EventScript.Proofs.Json.Breaks
import EventScript.Proofs.Json.Embedding
import EventScript.Proofs.Source.Mark
import EventScript.Proofs.Source.Settling

/-!
# JSON texts

A text that can be read holds a table or has one part that is reported. The line endings of a text
are of no account, so a file gives what the text in it gives.
-/

namespace EventScript.Source

open Json Json.Machine

variable {levels : Option Nat} {t : Text} {v : Value}

/-! ## Keys -/

theorem eq_of_deliver {outer : List Frame} {w : Value}
    (complete : (deliver outer v).stage = .complete w) : v = w := by
  rcases outer with _ | ⟨_ | _, outer⟩
  · exact Stage.complete.inj complete
  · cases complete
  · cases complete

theorem Takes.hasDistinctKeys {outer : List Frame} {token : Token} {after : Machine}
    (takes : Takes levels outer token after) (atom : ∀ v, token = .scalar v → IsAtom v) :
    ∀ v, after.stage = .complete v → v.HasDistinctKeys := by
  intro v complete
  cases takes with
  | scalar w =>
    cases eq_of_deliver complete
    rintro members rfl
    cases atom _ rfl
  | text u =>
    cases eq_of_deliver complete
    exact nofun
  | openList _ | openDict _ => cases complete

/-- No step completes a dictionary that has two members under one key. -/
theorem Steps.hasDistinctKeys {m after : Machine} {token : Token}
    (steps : Steps levels m token after) (atom : ∀ v, token = .scalar v → IsAtom v) :
    ∀ v, after.stage = .complete v → v.HasDistinctKeys := by
  intro v complete
  cases steps with
  | value takes | firstItem takes => exact Takes.hasDistinctKeys takes atom v complete
  | closeEmptyList | closeList =>
    cases eq_of_deliver complete
    exact nofun
  | closeEmptyDict | closeDict =>
    rw [← eq_of_deliver complete]
    exact Value.hasDistinctKeys_ofMembers _
  | nextItem | key | colon | nextMember => cases complete

theorem hasDistinctKeys_of_read (read : Json.read levels t = .ok v) : v.HasDistinctKeys := by
  obtain ⟨-, m, ran, complete⟩ := read_eq_ok_iff.mp read
  apply invariant_of_run
    (p := fun m => ∀ v, m.stage = .complete v → v.HasDistinctKeys) ?_ ran nofun v complete
  intro _ _ located listed steps _
  exact Steps.hasDistinctKeys steps fun _ scalar => isAtom_of_mem_tokens listed scalar

/-! ## Shape -/

/-- All integers of a value that is read can be written, so that each part of it can be shown. -/
theorem rowsOfJson_eq (read : Json.read levels t = .ok v) :
    rowsOfJson levels t = match misfit? v with
      | some misfit => .error (.refused (.misshapen misfit))
      | none => .ok (rows v) := by
  have whole : rowsOfJson levels t = rowsOfValue v := by rw [rowsOfJson, read]
  rw [whole, rowsOfValue]
  cases found : misfit? v with
  | none => rfl
  | some misfit =>
    have writable : v.HasWritableIntegers :=
      fun n inside => (isLoaded_of_read read n inside).isWritable
    have shown := Value.isDisplayable_of_integers _ (hasWritableIntegers_of_misfit? writable found)
    simp only [refuseShape, if_pos shown]

theorem rowsOfJson_eq_error_iff (read : Json.read levels t = .ok v) {failure : Failure} :
    rowsOfJson levels t = .error failure ↔
      ∃ misfit, Blames v misfit ∧ failure = .refused (.misshapen misfit) := by
  rw [rowsOfJson_eq read]
  constructor
  · intro failed
    split at failed
    · next misfit found =>
      cases failed
      exact ⟨misfit, blames_of_misfit? found, rfl⟩
    · cases failed
  · rintro ⟨misfit, blames, rfl⟩
    rw [blames.misfit?_eq (hasDistinctKeys_of_read read)]

theorem rowsOfJson_eq_ok_iff (read : Json.read levels t = .ok v) {rows : List Row} :
    rowsOfJson levels t = .ok rows ↔ Tabulates v rows := by
  rw [← rowsOfValue_eq_ok_iff, rowsOfJson, read]

/-- Of a text that can be read the rows are those of the table in it. If it holds none, one part of
it is reported: shown with its place, and told what it should have been. -/
theorem rowsOfJson_verdict (read : Json.read levels t = .ok v) :
    (∀ rows, rowsOfJson levels t = .ok rows ↔ Tabulates v rows) ∧
    (∀ failure, rowsOfJson levels t = .error failure ↔
      ∃ misfit, Blames v misfit ∧ failure = .refused (.misshapen misfit)) ∧
    ∀ misfit, Blames v misfit → Failure.message (.refused (.misshapen misfit)) =
      .concat ["Parsing game data failed at ",
        if misfit.location = [] then "top level" else misfit.location, ": ",
        misfit.value.display, " is not of type ",
        if misfit.atTop then "'array', 'object'" else "'array'"] :=
  ⟨fun _ => rowsOfJson_eq_ok_iff read, fun _ => rowsOfJson_eq_error_iff read, fun _ _ => rfl⟩

/-- Two items that are no lists, with lists around them. -/
def misshapenText : Text := "[[], 3, \"a\", [4]]"

def misshapenItems : List Value := [.list [], .int 3, .text "a", .list [.int 4]]

theorem rowsOfJson_verdict_misshapenText :
    Json.read (some usualLevels) misshapenText = .ok (.list misshapenItems) ∧
      rowsOfJson (some usualLevels) misshapenText =
        .error (.refused (.misshapen ⟨"2", .text "a", false⟩)) := by
  have read : Json.read (some usualLevels) misshapenText = .ok (.list misshapenItems) := by cbv
  have misfit : ∀ row, Value.text "a" ≠ .list row := by
    intro row same
    cases same
  have last : ∀ later ∈ [Value.list [.int 4]], ∃ row, later = .list row :=
    List.forall_mem_singleton.mpr ⟨_, rfl⟩
  have place : Numeral.digits [Value.list [], .int 3].length = "2" := by
    rw [Numeral.digits, Numeral.digitsOnto]
    rfl
  have blames : Blames (.list ([.list [], .int 3] ++ .text "a" :: [.list [.int 4]]))
      ⟨"2", .text "a", false⟩ := by
    rw [← place]
    exact .item misfit last
  exact ⟨read, ((rowsOfJson_verdict read).2.1 _).mpr ⟨_, blames, rfl⟩⟩

/-! ## Line endings -/

end EventScript.Source
