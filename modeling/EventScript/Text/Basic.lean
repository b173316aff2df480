/-!
# Text as code points

Cells, messages and paths are lists of code points. A list may hold surrogates on their own, which
no file can carry but an escape in a data file can spell, so `String` would lose them.
-/

namespace EventScript

/-- A Unicode code point; a surrogate counts as one. -/
structure CodePoint where
  val : Nat
  val_lt : val < 0x110000
  deriving DecidableEq, Repr

namespace CodePoint

theorem eq_of_val_eq {c d : CodePoint} (h : c.val = d.val) : c = d := by
  cases c; cases d; simp_all

theorem val_inj {c d : CodePoint} : c.val = d.val ↔ c = d :=
  ⟨eq_of_val_eq, fun h => h ▸ rfl⟩

def ofChar (c : Char) : CodePoint where
  val := c.toNat
  val_lt := by
    have valid := c.valid
    simp only [UInt32.isValidChar, Nat.isValidChar] at valid
    have : c.toNat = c.val.toNat := rfl
    omega

instance : Coe Char CodePoint := ⟨ofChar⟩

@[simp] theorem val_ofChar (c : Char) : (ofChar c).val = c.toNat := rfl

/-- The code point of number `n`, for `n` below 0x110000. -/
def ofNat (n : Nat) : CodePoint :=
  ⟨n % 0x110000, Nat.mod_lt _ (by decide)⟩

theorem val_ofNat {n : Nat} (h : n < 0x110000) : (ofNat n).val = n :=
  Nat.mod_eq_of_lt h

@[simp] theorem ofNat_val (c : CodePoint) : ofNat c.val = c :=
  eq_of_val_eq (val_ofNat c.val_lt)

def isSurrogate (c : CodePoint) : Bool :=
  0xD800 ≤ c.val && c.val ≤ 0xDFFF

def isAscii (c : CodePoint) : Bool :=
  c.val < 0x80

def isDigit (c : CodePoint) : Bool :=
  48 ≤ c.val && c.val ≤ 57

/-- The value of an ASCII digit, and of a letter from `a` on in either case as the digits from ten
on. -/
def digitValue? (c : CodePoint) : Option Nat :=
  if 48 ≤ c.val ∧ c.val ≤ 57 then some (c.val - 48)
  else if 97 ≤ c.val ∧ c.val ≤ 122 then some (c.val - 87)
  else if 65 ≤ c.val ∧ c.val ≤ 90 then some (c.val - 55)
  else none

/-- The lower-case digit of value `d`, for `d` below sixteen. -/
def hexDigit (d : Nat) : CodePoint :=
  match d with
  | 0 => '0' | 1 => '1' | 2 => '2' | 3 => '3' | 4 => '4' | 5 => '5' | 6 => '6' | 7 => '7'
  | 8 => '8' | 9 => '9' | 10 => 'a' | 11 => 'b' | 12 => 'c' | 13 => 'd' | 14 => 'e' | _ => 'f'

end CodePoint

abbrev Text := List CodePoint

namespace Text

def ofString (s : String) : Text :=
  s.toList.map CodePoint.ofChar

instance : Coe String Text := ⟨ofString⟩

/-- The pieces of a message, one after the other. -/
def concat (pieces : List Text) : Text :=
  pieces.flatten

/-- Join with `separator` between neighbours. -/
def joinWith (separator : Text) : List Text → Text
  | [] => []
  | [t] => t
  | t :: u :: rest => t ++ separator ++ joinWith separator (u :: rest)

/-- The pieces of a text between the marks in it. -/
def splitOn (mark : CodePoint) : Text → List Text
  | [] => [[]]
  | c :: rest =>
    if c = mark then [] :: splitOn mark rest
    else match splitOn mark rest with
      | [] => [[c]]
      | piece :: more => (c :: piece) :: more

theorem length_le_of_mem_splitOn {mark : CodePoint} {t piece : Text} (h : piece ∈ splitOn mark t) :
    piece.length ≤ t.length := by
  induction t generalizing piece with
  | nil => simp_all [splitOn]
  | cons c rest ih =>
    simp only [splitOn] at h
    split at h
    · rcases List.mem_cons.mp h with rfl | h
      · simp
      · exact Nat.le_succ_of_le (ih h)
    · split at h
      · simp_all
      · next first more eq =>
        rcases List.mem_cons.mp h with rfl | h
        · exact Nat.succ_le_succ (ih (by simp [eq]))
        · exact Nat.le_succ_of_le (ih (by simp [eq, h]))

/-- The lowest `width` hexadecimal digits of `n`, the highest of them first. -/
def hex (width n : Nat) : Text :=
  (List.range width).reverse.map fun place => CodePoint.hexDigit (n / Nat.pow 16 place % 16)

/-- Dictionary order by code point, a proper beginning first. -/
def le : Text → Text → Bool
  | [], _ => true
  | _ :: _, [] => false
  | c :: t, d :: u => c.val < d.val || (c.val == d.val && le t u)

/-- Remove the code points at both ends that satisfy `p`. -/
def trim (p : CodePoint → Bool) (t : Text) : Text :=
  ((t.dropWhile p).reverse.dropWhile p).reverse

/-- What follows `start`, if the text begins with it. -/
def after? (start : Text) (t : Text) : Option Text :=
  if start.isPrefixOf t then some (t.drop start.length) else none

theorem eq_append_of_after? {start t rest : Text} (h : after? start t = some rest) :
    t = start ++ rest := by
  unfold after? at h
  split at h
  · next begins =>
    obtain ⟨rest', rfl⟩ := List.isPrefixOf_iff_prefix.mp begins
    simpa using h
  · contradiction

def hasSurrogate (t : Text) : Bool :=
  t.any CodePoint.isSurrogate

def isAscii (t : Text) : Bool :=
  t.all CodePoint.isAscii

/-- Texts are terminated by a null where they are stored, so a null inside one is refused. -/
def hasNull (t : Text) : Bool :=
  t.any fun c => c.val == 0

end Text

end EventScript
