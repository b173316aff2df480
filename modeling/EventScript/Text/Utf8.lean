import EventScript.Text.Ascii

/-!
# UTF-8

A strict codec: surrogates have no bytes, and bytes that no text is written as are refused at the
first sequence that goes wrong.
-/

namespace EventScript

namespace Utf8

/-- The bytes of a code point in the shortest sequence that holds it. -/
def encodeOne (c : CodePoint) : Bytes :=
  if c.val < 0x80 then [.ofNat c.val]
  else if c.val < 0x800 then [.ofNat (0xC0 + c.val / 64), .ofNat (0x80 + c.val % 64)]
  else if c.val < 0x10000 then
    [.ofNat (0xE0 + c.val / 4096), .ofNat (0x80 + c.val / 64 % 64), .ofNat (0x80 + c.val % 64)]
  else
    [.ofNat (0xF0 + c.val / 262144), .ofNat (0x80 + c.val / 4096 % 64),
      .ofNat (0x80 + c.val / 64 % 64), .ofNat (0x80 + c.val % 64)]

def encode (t : Text) : Except Unencodable Bytes :=
  match Unencodable.find? CodePoint.isSurrogate t with
  | some run => .error run
  | none => .ok (t.flatMap encodeOne)

theorem encode_eq_ok {t : Text} (h : ∀ c ∈ t, c.isSurrogate = false) :
    encode t = .ok (t.flatMap encodeOne) := by
  simp [encode, Unencodable.find?_eq_none_iff.mpr h]

inductive Flaw
  | start
  | continuation
  | ending
  deriving DecidableEq, Repr

/-- What the beginning of a byte list holds: a code point, or a flaw in its first `length` bytes. -/
inductive Sequence
  | char (c : CodePoint) (rest : Bytes)
  | flawed (flaw : Flaw) (length : Nat)

def isContinuation (b : UInt8) : Bool :=
  0x80 ≤ b.toNat && b.toNat ≤ 0xBF

/-- After some first bytes only part of the continuation bytes may follow: the others would spell
a code point that has a shorter sequence, a surrogate, or nothing. -/
def maySecond (first second : UInt8) : Bool :=
  isContinuation second &&
    (if first.toNat = 0xE0 then 0xA0 ≤ second.toNat
    else if first.toNat = 0xED then second.toNat < 0xA0
    else if first.toNat = 0xF0 then 0x90 ≤ second.toNat
    else if first.toNat = 0xF4 then second.toNat < 0x90
    else true)

/-- The code point of the payload of a first byte and of its continuation bytes. -/
def assemble (lead : Nat) (continuation : Bytes) : CodePoint :=
  .ofNat (continuation.foldl (fun n b => n * 64 + (b.toNat - 0x80)) lead)

def decodeTwo (first : UInt8) : Bytes → Sequence
  | [] => .flawed .ending 1
  | second :: rest =>
    if isContinuation second then .char (assemble (first.toNat - 0xC0) [second]) rest
    else .flawed .continuation 1

def decodeThree (first : UInt8) : Bytes → Sequence
  | [] => .flawed .ending 1
  | [second] => if maySecond first second then .flawed .ending 2 else .flawed .continuation 1
  | second :: third :: rest =>
    if !maySecond first second then .flawed .continuation 1
    else if isContinuation third then .char (assemble (first.toNat - 0xE0) [second, third]) rest
    else .flawed .continuation 2

def decodeFour (first : UInt8) : Bytes → Sequence
  | [] => .flawed .ending 1
  | [second] => if maySecond first second then .flawed .ending 2 else .flawed .continuation 1
  | [second, third] =>
    if !maySecond first second then .flawed .continuation 1
    else if isContinuation third then .flawed .ending 3
    else .flawed .continuation 2
  | second :: third :: fourth :: rest =>
    if !maySecond first second then .flawed .continuation 1
    else if !isContinuation third then .flawed .continuation 2
    else if isContinuation fourth then
      .char (assemble (first.toNat - 0xF0) [second, third, fourth]) rest
    else .flawed .continuation 3

def decodeOne (first : UInt8) (rest : Bytes) : Sequence :=
  if first.toNat < 0x80 then .char (.ofNat first.toNat) rest
  else if first.toNat < 0xC2 then .flawed .start 1
  else if first.toNat < 0xE0 then decodeTwo first rest
  else if first.toNat < 0xF0 then decodeThree first rest
  else if first.toNat < 0xF5 then decodeFour first rest
  else .flawed .start 1

theorem length_le_of_decodeOne {first : UInt8} {bytes rest : Bytes} {c : CodePoint}
    (h : decodeOne first bytes = .char c rest) : rest.length ≤ bytes.length := by
  unfold decodeOne decodeTwo decodeThree decodeFour at h
  repeat' split at h
  all_goals first
    | (injection h with _ h; subst h; simp <;> omega)
    | (injection h)

/-- A sequence that no text is written with: where it starts, its bytes, and what is wrong. -/
structure Fault where
  position : Nat
  bytes : Bytes
  flaw : Flaw
  deriving DecidableEq, Repr

/-- Code points are collected last first; a flaw comes with the bytes from it on. -/
def decodeFrom (done : Text) : Bytes → Except (Bytes × Nat × Flaw) Text
  | [] => .ok done.reverse
  | first :: bytes =>
    match _sequence : decodeOne first bytes with
    | .char c rest => decodeFrom (c :: done) rest
    | .flawed flaw length => .error (first :: bytes, length, flaw)
  termination_by bytes => bytes.length
  decreasing_by
    have := length_le_of_decodeOne ‹_›
    simp only [List.length_cons]
    omega

def decode (bytes : Bytes) : Except Fault Text :=
  match decodeFrom [] bytes with
  | .ok t => .ok t
  | .error (rest, length, flaw) => .error ⟨bytes.length - rest.length, rest.take length, flaw⟩

end Utf8

end EventScript
