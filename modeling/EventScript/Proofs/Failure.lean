import EventScript.Failure

/-!
# Steps that do not break down

A step settles if it gives a result or is refused, at stages that are known. Steps in a row settle
as long as each does with what the one before can give.
-/

namespace EventScript

/-- What a compile does, one after the other. -/
inductive Stage
  | reading
  | parsing
  | validating
  | encoding
  | writing
  deriving DecidableEq, Repr

/-- The stage that a refusal comes from. -/
def Refusal.stage : Refusal → Stage
  | unsupportedFormat _ | notUtf8 _ _ | unreadable _ _ => .reading
  | malformedCsv _ | malformedJson _ _ | misshapen _ => .parsing
  | rowLength _ _ | timer _ _ | cell _ _ _ | empty => .validating
  | encoding _ => .encoding
  | unwritable _ _ | declined _ => .writing

variable {α β : Type} {stages more : List Stage} {p : α → Prop} {next : α → Except Failure β}
  {given : β → Prop}

/-- The step gives a result with the property, or it is refused at one of these stages. -/
inductive Settles (stages : List Stage) (p : α → Prop) : Except Failure α → Prop
  | gives {a : α} (holds : p a) : Settles stages p (.ok a)
  | refused {refusal : Refusal} (listed : refusal.stage ∈ stages) :
    Settles stages p (.error (.refused refusal))

namespace Settles

variable {result first : Except Failure α}

theorem mono {q : α → Prop} (settles : Settles stages p result) (subset : stages ⊆ more)
    (weaker : ∀ a, p a → q a) : Settles more q result := by
  cases settles with
  | gives holds => exact .gives (weaker _ holds)
  | refused listed => exact .refused (subset listed)

theorem bind_append (settles : Settles stages p first)
    (rest : ∀ a, p a → Settles more given (next a)) :
    Settles (stages ++ more) given (first >>= next) := by
  cases settles with
  | gives holds => exact (rest _ holds).mono (List.subset_append_right ..) fun _ => id
  | refused listed => exact .refused (List.mem_append_left _ listed)

/-- Steps of the same stages. -/
theorem bind (settles : Settles stages p first)
    (rest : ∀ a, p a → Settles stages given (next a)) : Settles stages given (first >>= next) :=
  (settles.bind_append rest).mono (List.append_subset.mpr ⟨.refl _, .refl _⟩) fun _ => id

theorem map (settles : Settles stages p result) (f : α → β) :
    Settles stages (fun _ => True) (result.map f) := by
  cases settles with
  | gives holds => exact .gives trivial
  | refused listed => exact .refused listed

/-- Faults that are reported as refusals are no breakdowns. -/
theorem of_mapError {ε : Type} {refusal : ε → Refusal}
    (listed : ∀ fault, (refusal fault).stage ∈ stages) (result : Except ε α) :
    Settles stages (fun _ => True) (result.mapError fun fault => .refused (refusal fault)) := by
  cases result with
  | error fault => exact .refused (listed fault)
  | ok a => exact .gives trivial

/-- What a step gives is known to be what it gives. -/
theorem and_eq (settles : Settles stages p result) :
    Settles stages (fun a => p a ∧ result = .ok a) result := by
  cases settles with
  | gives holds => exact .gives ⟨holds, rfl⟩
  | refused listed => exact .refused listed

theorem ne_brokeDown (settles : Settles stages p result) (breakdown : Breakdown) :
    result ≠ .error (.brokeDown breakdown) := by
  cases settles <;> exact nofun

theorem of_eq_ok {a : α} (settles : Settles stages p (.ok a)) : p a := by
  cases settles with
  | gives holds => exact holds

theorem exists_refusal {failure : Failure} (settles : Settles stages p (.error failure)) :
    ∃ refusal : Refusal, failure = .refused refusal := by
  cases settles with
  | refused listed => exact ⟨_, rfl⟩

theorem stage_mem {refusal : Refusal} (settles : Settles stages p (.error (.refused refusal))) :
    refusal.stage ∈ stages := by
  cases settles with
  | refused listed => exact listed

end Settles

end EventScript
