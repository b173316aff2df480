import EventScript.Failure

/-!
# The shape of a JSON source

A source is a list of lists or a dictionary of lists; keys are ignored. If several parts are not
lists, the last item is reported, or the one with the greatest key.
-/

namespace EventScript.Source

def row? : Value → Option Row
  | .list cells => some cells
  | _ => none

/-- The last item that is not a list, with its index. -/
def lastMisfit? (index : Nat) : List Value → Option (Nat × Value)
  | [] => none
  | v :: rest =>
    match lastMisfit? (index + 1) rest with
    | some found => some found
    | none => if (row? v).isSome then none else some (index, v)

/-- The member with the greatest key of those that are not lists. -/
def greatestMisfit? : List (Text × Value) → Option (Text × Value)
  | [] => none
  | (key, v) :: rest =>
    match greatestMisfit? rest with
    | some (other, w) =>
      if (row? v).isNone ∧ !key.le other then some (key, v) else some (other, w)
    | none => if (row? v).isSome then none else some (key, v)

def misfit? : Value → Option Misfit
  | .list items => (lastMisfit? 0 items).map fun (index, v) => ⟨Numeral.digits index, v, false⟩
  | .dict members => (greatestMisfit? members).map fun (key, v) => ⟨key, v, false⟩
  | v => some ⟨[], v, true⟩

def rows : Value → List Row
  | .list items => items.filterMap row?
  | .dict members => members.filterMap fun member => row? member.2
  | _ => []

/-- The refusal shows the offending value, which a very long integer inside it can prevent. -/
def refuseShape (misfit : Misfit) : Failure :=
  if misfit.value.isDisplayable then .refused (.misshapen misfit)
  else .brokeDown (.numeral .unwritable)

def rowsOfValue (v : Value) : Except Failure (List Row) :=
  match misfit? v with
  | some misfit => .error (refuseShape misfit)
  | none => .ok (rows v)

end EventScript.Source
