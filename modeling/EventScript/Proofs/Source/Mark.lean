import EventScript.Proofs.Text.Utf8
import EventScript.Source.Rows

/-!
# Byte order marks

A file holds the text it was written with, whether or not a mark was put before it. Only a text that
begins with the code point of the mark would be mistaken.
-/

namespace EventScript.Source

def markPoint : CodePoint := .ofNat 0xFEFF

/-- The bytes of a text with a mark before it, or without. -/
def fileOf (marked : Bool) (t : Text) : Bytes :=
  (if marked then byteOrderMark else []) ++ t.flatMap Utf8.encodeOne

/-- The mark is read as its code point. -/
theorem decodeOne_mark (rest : Bytes) :
    Utf8.decodeOne 0xEF (0xBB :: 0xBF :: rest) = .char markPoint rest :=
  Utf8.decodeOne_three (c := markPoint) (by decide) (by decide) rfl rest

theorem decode_mark_append {t : Text} (noSurrogate : t.hasSurrogate = false) :
    decode (byteOrderMark ++ t.flatMap Utf8.encodeOne) = .ok t := by
  have long : ¬(byteOrderMark ++ t.flatMap Utf8.encodeOne).length < byteOrderMark.length := by
    rw [List.length_append]
    omega
  have marked : byteOrderMark.isPrefixOf (byteOrderMark ++ t.flatMap Utf8.encodeOne) = true :=
    List.isPrefixOf_iff_prefix.mpr (List.prefix_append ..)
  unfold decode
  rw [if_neg fun short => long short.1, if_pos marked, List.drop_left,
    Utf8.decode_flatMap_encodeOne noSurrogate]

/-- Bytes that begin with another code point are read as they are. -/
theorem decode_eq_of_decodeOne {first : UInt8} {more rest : Bytes} {c : CodePoint}
    (read : Utf8.decodeOne first more = .char c rest) (other : c ≠ markPoint) :
    decode (first :: more) = Utf8.decode (first :: more) := by
  have whole : ¬((first :: more).length < byteOrderMark.length ∧
      (first :: more).isPrefixOf byteOrderMark = true) := by
    rintro ⟨short, beginning⟩
    rcases more with - | ⟨second, - | ⟨third, more⟩⟩
    · obtain ⟨rest, same⟩ := List.isPrefixOf_iff_prefix.mp beginning
      cases same
      cases read
    · obtain ⟨rest, same⟩ := List.isPrefixOf_iff_prefix.mp beginning
      cases same
      cases read
    · simp only [byteOrderMark, List.length_cons, List.length_nil] at short
      omega
  have unmarked : ¬byteOrderMark.isPrefixOf (first :: more) = true := by
    intro beginning
    obtain ⟨after, same⟩ := List.isPrefixOf_iff_prefix.mp beginning
    obtain ⟨rfl, rfl⟩ : 0xEF = first ∧ 0xBB :: 0xBF :: after = more := List.cons.inj same
    rw [decodeOne_mark] at read
    exact other (Utf8.Sequence.char.inj read).1.symm
  unfold decode
  rw [if_neg whole, if_neg unmarked]

theorem decode_flatMap_encodeOne {t : Text} (noSurrogate : t.hasSurrogate = false)
    (unmarked : t.head? ≠ some markPoint) : decode (t.flatMap Utf8.encodeOne) = .ok t := by
  cases t with
  | nil => rfl
  | cons c t =>
    have other : c ≠ markPoint := fun same => unmarked (congrArg some same)
    obtain ⟨first, tail, written, read⟩ := Utf8.decodeOne_encodeOne
      (Text.hasSurrogate_eq_false_iff.mp noSurrogate c List.mem_cons_self)
      (t.flatMap Utf8.encodeOne)
    have decoded := Utf8.decode_flatMap_encodeOne noSurrogate
    rw [List.flatMap_cons, written, List.cons_append] at decoded ⊢
    rw [decode_eq_of_decodeOne read other, decoded]

theorem decode_fileOf {t : Text} (marked : Bool) (noSurrogate : t.hasSurrogate = false)
    (unmarked : t.head? ≠ some markPoint) : decode (fileOf marked t) = .ok t := by
  cases marked with
  | true => exact decode_mark_append noSurrogate
  | false => exact decode_flatMap_encodeOne noSurrogate unmarked

end EventScript.Source
