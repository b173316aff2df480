import EventScript.Number.Numeral
import EventScript.Text.Ascii

/-!
# Signed 64-bit words

Every integer stands for a word: numbers that differ by a multiple of 2⁶⁴ stand for the same one.
-/

namespace EventScript.Word

/-- How many words there are. -/
def modulus : Int := 0x10000000000000000

def least : Int := -0x8000000000000000

def greatest : Int := 0x7FFFFFFFFFFFFFFF

/-- The number within 64 bits that stands for the same word as `n`. -/
def wrap (n : Int) : Int :=
  (n - least) % modulus + least

theorem wrap_mem (n : Int) : least ≤ wrap n ∧ wrap n ≤ greatest := by
  unfold wrap least greatest modulus
  omega

theorem wrap_eq_self {n : Int} (low : least ≤ n) (high : n ≤ greatest) : wrap n = n := by
  unfold wrap modulus
  unfold least at low ⊢
  unfold greatest at high
  omega

/-- The lowest `width` base-256 digits of `n`, the lowest first. -/
def littleEndian : Nat → Nat → Bytes
  | 0, _ => []
  | width + 1, n => UInt8.ofNat n :: littleEndian width (n / 256)

@[simp] theorem length_littleEndian (width n : Nat) : (littleEndian width n).length = width := by
  induction width generalizing n with
  | zero => rfl
  | succ width ih => simp [littleEndian, ih]

def ofLittleEndian : Bytes → Nat
  | [] => 0
  | b :: rest => b.toNat + 256 * ofLittleEndian rest

/-- The eight bytes of a word, in two's complement. -/
def encode (n : Int) : Bytes :=
  littleEndian 8 (n % modulus).toNat

def decode (bytes : Bytes) : Int :=
  wrap (ofLittleEndian bytes)

/-- Fold numerals of `chunkSize` code points, each read by itself, into one number modulo 2⁶⁴. -/
def foldChunks (chunkSize total : Nat) : Text → Except Numeral.Fault Nat
  | [] => .ok total
  | c :: rest =>
    let chunk := c :: rest.take (chunkSize - 1)
    match Numeral.read chunk with
    | .error fault => .error fault
    | .ok n =>
      let joined := ((total * Nat.pow 10 chunk.length : Nat) + n) % modulus
      foldChunks chunkSize joined.toNat (rest.drop (chunkSize - 1))
  termination_by t => t.length
  decreasing_by
    simp only [List.length_drop, List.length_cons]
    omega

/-- Long decimals are folded in pieces that fit a machine word. -/
def decimalChunk : Nat := 18

/-- The word of a signed decimal of any length. Only a leading minus negates it; further signs are
passed over. -/
def ofDecimal (chunkSize : Nat) (t : Text) : Except Numeral.Fault Int :=
  let negative := t.head? == some (CodePoint.ofChar '-')
  let unsigned := t.dropWhile fun (c : CodePoint) => c = '+' ∨ c = '-'
  match foldChunks chunkSize 0 unsigned with
  | .error fault => .error fault
  | .ok n => .ok (wrap (if negative then -(n : Int) else n))

end EventScript.Word
