import EventScript.Number.Word
import Mathlib.Data.Int.ModEq

/-!
# Bytes of words

Eight bytes hold a number modulo 2⁶⁴, so a word is read back from the bytes of any number that
stands for it. Numbers that stand for the same word are wrapped to the same number.
-/

namespace EventScript.Word

theorem ofLittleEndian_littleEndian (width n : Nat) :
    ofLittleEndian (littleEndian width n) = n % Nat.pow 256 width := by
  induction width generalizing n with
  | zero => simp [littleEndian, ofLittleEndian, Nat.mod_one]
  | succ width ih =>
    have lowest : (UInt8.ofNat n).toNat = n % 256 := UInt8.toNat_ofNat'
    have power : Nat.pow 256 (width + 1) = 256 * Nat.pow 256 width := Nat.mul_comm ..
    rw [littleEndian, ofLittleEndian, ih, lowest, power, Nat.mod_mul]

@[simp] theorem length_encode (n : Int) : (encode n).length = 8 :=
  length_littleEndian 8 _

theorem decode_encode (n : Int) : decode (encode n) = wrap n := by
  have bound : (n % modulus).toNat < Nat.pow 256 8 := by
    unfold modulus
    change _ < 0x10000000000000000
    omega
  rw [decode, encode, ofLittleEndian_littleEndian, Nat.mod_eq_of_lt bound]
  unfold wrap least modulus
  omega

theorem decode_encode_of_mem {n : Int} (low : least ≤ n) (high : n ≤ greatest) :
    decode (encode n) = n := by
  rw [decode_encode, wrap_eq_self low high]

theorem wrap_modEq (n : Int) : wrap n ≡ n [ZMOD modulus] := by
  unfold Int.ModEq wrap least modulus
  omega

theorem wrap_eq_of_modEq {m n : Int} (same : m ≡ n [ZMOD modulus]) : wrap m = wrap n := by
  unfold Int.ModEq modulus at same
  unfold wrap least modulus
  omega

/-- Of the numbers that stand for a word only one lies within 64 bits. -/
theorem eq_wrap_of_modEq {k n : Int} (low : least ≤ k) (high : k ≤ greatest)
    (same : k ≡ n [ZMOD modulus]) : k = wrap n := by
  rw [← wrap_eq_of_modEq same, wrap_eq_self low high]

@[simp] theorem wrap_wrap (n : Int) : wrap (wrap n) = wrap n :=
  wrap_eq_of_modEq (wrap_modEq n)

theorem encode_wrap (n : Int) : encode (wrap n) = encode n := by
  unfold encode
  rw [(wrap_modEq n).eq]

theorem littleEndian_ofLittleEndian (bytes : Bytes) :
    littleEndian bytes.length (ofLittleEndian bytes) = bytes := by
  induction bytes with
  | nil => rfl
  | cons b rest ih =>
    have bound := b.toNat_lt
    have lowest : UInt8.ofNat (b.toNat + 256 * ofLittleEndian rest) = b := by
      apply UInt8.toNat_inj.mp
      rw [UInt8.toNat_ofNat']
      omega
    have others : (b.toNat + 256 * ofLittleEndian rest) / 256 = ofLittleEndian rest := by omega
    rw [List.length_cons, ofLittleEndian, littleEndian, lowest, others, ih]

theorem ofLittleEndian_lt (bytes : Bytes) : ofLittleEndian bytes < 256 ^ bytes.length := by
  induction bytes with
  | nil => exact Nat.one_pos
  | cons b rest ih =>
    have bound := b.toNat_lt
    rw [ofLittleEndian, List.length_cons, Nat.pow_succ]
    omega

theorem encode_decode {bytes : Bytes} (width : bytes.length = 8) :
    encode (decode bytes) = bytes := by
  have bound := ofLittleEndian_lt bytes
  rw [width] at bound
  have whole : ((ofLittleEndian bytes : Int) % modulus).toNat = ofLittleEndian bytes := by
    unfold modulus
    omega
  rw [decode, encode_wrap, encode, whole, ← width, littleEndian_ofLittleEndian]

theorem littleEndian_eq_map (width n : Nat) :
    littleEndian width n = (List.range width).map fun place => UInt8.ofNat (n / 256 ^ place) := by
  induction width generalizing n with
  | zero => rfl
  | succ width ih =>
    rw [littleEndian, ih, List.range_succ_eq_map, List.map_cons, List.map_map]
    simp only [Nat.pow_zero, Nat.div_one, Function.comp_def, Nat.pow_succ', Nat.div_div_eq_div_mul]

end EventScript.Word
