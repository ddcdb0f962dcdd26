import SourceUnit.Text.CodePoint

/-! UTF-8. Strict decoding says where and why it stopped; tolerant decoding steps over what is broken.
Encoding takes any code points: a surrogate that stands for a byte gives that byte back, and if some
surrogate does not, all of them are written as if they were characters. -/
namespace SourceUnit.Utf8

/-- Why bytes are not UTF-8. -/
inductive Reason where
  | start
  | continuation
  | truncated
deriving DecidableEq, Repr

def Reason.message : Reason → String
  | .start => "invalid start byte"
  | .continuation => "invalid continuation byte"
  | .truncated => "unexpected end of data"

/-- The offset of the first sequence that is not well formed. -/
structure Fault where
  position : Nat
  reason : Reason
deriving DecidableEq, Repr

/-- What a leading byte announces: how many bytes follow, the range of the first of them, and the
bits it contributes itself. -/
structure Lead where
  owed : Nat
  low : UInt8
  high : UInt8
  bits : Nat
deriving DecidableEq, Repr

/-- The bounds leave out overlong forms, surrogates and what lies above the last code point. -/
def lead? (b : UInt8) : Option Lead :=
  if b < 0x80 then some ⟨0, 0, 0, b.toNat⟩
  else if b < 0xC2 then none
  else if b < 0xE0 then some ⟨1, 0x80, 0xBF, b.toNat - 0xC0⟩
  else if b = 0xE0 then some ⟨2, 0xA0, 0xBF, 0⟩
  else if b = 0xED then some ⟨2, 0x80, 0x9F, 0xD⟩
  else if b < 0xF0 then some ⟨2, 0x80, 0xBF, b.toNat - 0xE0⟩
  else if b = 0xF0 then some ⟨3, 0x90, 0xBF, 0⟩
  else if b = 0xF4 then some ⟨3, 0x80, 0x8F, 4⟩
  else if b < 0xF4 then some ⟨3, 0x80, 0xBF, b.toNat - 0xF0⟩
  else none

/-- Reads the bytes a leading byte announced. -/
def follow : (owed : Nat) → (low high : UInt8) → (value : Nat) → List UInt8 →
    Except Reason (Nat × List UInt8)
  | 0, _, _, value, rest => .ok (value, rest)
  | _ + 1, _, _, _, [] => .error .truncated
  | n + 1, low, high, value, b :: rest =>
    if low ≤ b ∧ b ≤ high then follow n 0x80 0xBF (value * 64 + (b.toNat - 0x80)) rest
    else .error .continuation

/-- Reads one character. -/
def decodeChar (b : UInt8) (rest : List UInt8) : Except Reason (Char × List UInt8) :=
  match lead? b with
  | none => .error .start
  | some l =>
    match follow l.owed l.low l.high l.bits rest with
    | .ok (value, rest) => .ok (Char.ofNat value, rest)
    | .error e => .error e

theorem length_le_of_follow {n : Nat} {low high : UInt8} {value v : Nat} {bs rest : List UInt8}
    (h : follow n low high value bs = .ok (v, rest)) : rest.length ≤ bs.length := by
  induction n generalizing low high value bs with
  | zero => simp_all [follow]
  | succ n ih =>
    cases bs with
    | nil => simp [follow] at h
    | cons b bs =>
      rw [follow] at h
      split at h
      · exact Nat.le_trans (ih h) (Nat.le_succ _)
      · cases h

theorem length_le_of_decodeChar {b : UInt8} {c : Char} {bs rest : List UInt8}
    (h : decodeChar b bs = .ok (c, rest)) : rest.length ≤ bs.length := by
  rw [decodeChar] at h
  split at h
  · cases h
  · split at h
    · next hf =>
      cases h
      exact length_le_of_follow hf
    · cases h

/-- Decodes bytes that start at an offset, after the characters already read. -/
def decodeFrom (position : Nat) (read : List Char) (bytes : List UInt8) :
    Except Fault (List Char) :=
  match bytes with
  | [] => .ok read.reverse
  | b :: rest =>
    match _h : decodeChar b rest with
    | .error reason => .error ⟨position, reason⟩
    | .ok (c, rest') => decodeFrom (position + c.utf8Size) (c :: read) rest'
termination_by bytes.length
decreasing_by
  have := length_le_of_decodeChar _h
  simp only [List.length_cons]
  omega

def decode (bytes : List UInt8) : Except Fault (List Char) := decodeFrom 0 [] bytes

def encode (s : List Char) : List UInt8 := s.flatMap String.utf8EncodeChar

/-- How many bytes go on with a sequence before it is complete or broken off. -/
def fitting : (owed : Nat) → (low high : UInt8) → List UInt8 → Nat
  | n + 1, low, high, b :: rest =>
    if low ≤ b ∧ b ≤ high then fitting n 0x80 0xBF rest + 1 else 0
  | _, _, _, _ => 0

/-- Where no character can be read, how many bytes belong to the sequence that the first one opens. -/
def brokenLength (b : UInt8) (rest : List UInt8) : Nat :=
  match lead? b with
  | some l => fitting l.owed l.low l.high rest
  | none => 0

/-- Decodes any bytes. Each byte of a broken sequence gives what `stray` makes of it. -/
def decodeTolerant (stray : UInt8 → List CodePoint) (bytes : List UInt8) : List CodePoint :=
  match bytes with
  | [] => []
  | b :: rest =>
    match _h : decodeChar b rest with
    | .ok (c, rest') => CodePoint.ofChar c :: decodeTolerant stray rest'
    | .error _ =>
      let n := brokenLength b rest
      (b :: rest.take n).flatMap stray ++ decodeTolerant stray (rest.drop n)
termination_by bytes.length
decreasing_by
  · have := length_le_of_decodeChar _h
    simp only [List.length_cons]
    omega
  · simp only [List.length_cons, List.length_drop]
    omega

/-- The characters among any bytes. -/
def decodeIgnoring (bytes : List UInt8) : List CodePoint := decodeTolerant (fun _ => []) bytes

/-- The characters of a text, or the index of its first surrogate. -/
def charsFrom (index : Nat) (read : List Char) : List CodePoint → Except Nat (List Char)
  | [] => .ok read.reverse
  | c :: cs =>
    match c.toChar? with
    | some ch => charsFrom (index + 1) (ch :: read) cs
    | none => .error index

def chars (s : List CodePoint) : Except Nat (List Char) := charsFrom 0 [] s

/-- The bytes of a code point, when a surrogate may only stand for a byte from 80 to FF. -/
def escapedBytes? (c : CodePoint) : Option (List UInt8) :=
  match c.toChar? with
  | some ch => some (String.utf8EncodeChar ch)
  | none => if 0xDC80 ≤ c.val ∧ c.val ≤ 0xDCFF then some [UInt8.ofNat (c.val - 0xDC00)] else none

/-- The bytes of a code point, with a surrogate written in three bytes. -/
def passedBytes? (c : CodePoint) : Option (List UInt8) :=
  match c.toChar? with
  | some ch => some (String.utf8EncodeChar ch)
  | none =>
    if c.isSurrogate then
      some [UInt8.ofNat (0xE0 + c.val / 4096), UInt8.ofNat (0x80 + c.val / 64 % 64),
        UInt8.ofNat (0x80 + c.val % 64)]
    else none

/-- The bytes of a text, unless some code point has none. -/
def encodeBy (bytes? : CodePoint → Option (List UInt8)) (s : List CodePoint) :
    Option (List UInt8) :=
  (s.mapM bytes?).map List.flatten

/-- The bytes of a text, with surrogates for bytes if that is what all of them are. -/
def encodeAny (s : List CodePoint) : Option (List UInt8) :=
  match encodeBy escapedBytes? s with
  | some bytes => some bytes
  | none => encodeBy passedBytes? s

end SourceUnit.Utf8
