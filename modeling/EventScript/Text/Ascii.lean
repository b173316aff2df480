import EventScript.Text.Quoted

/-!
# Encodings of text and what they cannot carry

A refused encoding names the first run of code points that it has no bytes for.
-/

namespace EventScript

abbrev Bytes := List UInt8

/-- The first run of code points that an encoding cannot carry: its place and its members. -/
structure Unencodable where
  start : Nat
  first : CodePoint
  length : Nat
  deriving DecidableEq, Repr

namespace Unencodable

/-- The first longest run of code points that satisfy `bad`. -/
def find? (bad : CodePoint → Bool) (t : Text) : Option Unencodable :=
  match t.dropWhile (! bad ·) with
  | [] => none
  | c :: rest => some ⟨(t.takeWhile (! bad ·)).length, c, (rest.takeWhile bad).length + 1⟩

theorem find?_eq_none_iff {bad : CodePoint → Bool} {t : Text} :
    find? bad t = none ↔ ∀ c ∈ t, bad c = false := by
  have blocked : find? bad t = none ↔ t.dropWhile (! bad ·) = [] := by
    unfold find?
    split <;> simp_all
  rw [blocked]
  clear blocked
  induction t with
  | nil => simp
  | cons c rest ih => cases h : bad c <;> simp_all

end Unencodable

namespace Text

/-- One byte for each code point below 128; there is no other. -/
def encodeAscii (t : Text) : Except Unencodable Bytes :=
  match Unencodable.find? (! ·.isAscii) t with
  | some run => .error run
  | none => .ok (t.map fun c => UInt8.ofNat c.val)

end Text

end EventScript
