/-! Escapes in string literals. Decoding yields the text, or says where an escape is malformed;
escapes without a meaning stand for themselves, and the first of them is reported. -/
namespace SourceUnit.Grammar.Escape

/-- A decoded literal and the first escape letter without a meaning. -/
structure Decoded where
  points : List Nat
  unknown : Option Char

def hexValue? (c : Char) : Option Nat :=
  if '0' ≤ c && c ≤ '9' then some (c.toNat - '0'.toNat)
  else if 'a' ≤ c && c ≤ 'f' then some (c.toNat - 'a'.toNat + 10)
  else if 'A' ≤ c && c ≤ 'F' then some (c.toNat - 'A'.toNat + 10)
  else none

def octalValue? (c : Char) : Option Nat :=
  if '0' ≤ c && c ≤ '7' then some (c.toNat - '0'.toNat) else none

/-- Escapes of one letter that stand for one character. -/
def simple? (c : Char) : Option Nat :=
  match c with
  | '\\' => some 92
  | '\'' => some 39
  | '"' => some 34
  | 'b' => some 8
  | 'f' => some 12
  | 't' => some 9
  | 'n' => some 10
  | 'r' => some 13
  | 'v' => some 11
  | 'a' => some 7
  | _ => none

def hex8 (n : Nat) : List Char :=
  let ds := Nat.toDigits 16 n
  List.replicate (8 - ds.length) '0' ++ ds

/-- The literal in ASCII: other characters become escapes of eight hexadecimal digits, and a
backslash before one of them or at the end is doubled. Faults are placed in this form. -/
def toAscii : List Char → List Char
  | [] => []
  | '\\' :: rest =>
    match rest with
    | [] => "\\u005c".toList
    | c :: rest' =>
      if c.toNat < 128 then '\\' :: c :: toAscii rest'
      else "\\u005c".toList ++ ('\\' :: 'U' :: hex8 c.toNat) ++ toAscii rest'
  | c :: rest =>
    if c.toNat < 128 then c :: toAscii rest
    else ('\\' :: 'U' :: hex8 c.toNat) ++ toAscii rest

/-- Reads exactly `count` hexadecimal digits; on failure, how many were read. -/
def hexDigits : (count acc done : Nat) → List Char → Except Nat (Nat × List Char)
  | 0, acc, _, cs => .ok (acc, cs)
  | _ + 1, _, done, [] => .error done
  | count + 1, acc, done, c :: cs =>
    match hexValue? c with
    | some v => hexDigits count (acc * 16 + v) (done + 1) cs
    | none => .error done

/-- Up to two more octal digits. -/
def octalTail : (count acc : Nat) → List Char → Nat × List Char
  | 0, acc, cs => (acc, cs)
  | _ + 1, acc, [] => (acc, [])
  | count + 1, acc, c :: cs =>
    match octalValue? c with
    | some v => octalTail count (acc * 8 + v) cs
    | none => (acc, c :: cs)

/-- A malformed escape, from its backslash to the first character that does not fit. -/
def malformed (start stop : Nat) (message : String) : String :=
  s!"(unicode error) 'unicodeescape' codec can't decode bytes in position {start}-{stop - 1}: "
    ++ message

/-- The letter of an escape by code, its number of digits and its name. -/
def codeEscape? (c : Char) : Option (Nat × String) :=
  match c with
  | 'x' => some (2, "truncated \\xXX escape")
  | 'u' => some (4, "truncated \\uXXXX escape")
  | 'U' => some (8, "truncated \\UXXXXXXXX escape")
  | _ => none

/-- Decodes ASCII text with escapes. `pos` is the position of the head of the list. A character
given by name counts as one character. -/
def decodeAscii : (fuel pos : Nat) → List Char → Decoded → Except String Decoded
  | 0, _, _, acc => .ok { acc with points := acc.points.reverse }
  | _ + 1, _, [], acc => .ok { acc with points := acc.points.reverse }
  | fuel + 1, pos, '\\' :: c :: cs, acc =>
    let push (n : Nat) : Decoded := { acc with points := n :: acc.points }
    if c == '\n' then decodeAscii fuel (pos + 2) cs acc
    else
      match simple? c with
      | some n => decodeAscii fuel (pos + 2) cs (push n)
      | none =>
        match octalValue? c with
        | some v =>
          let (n, rest) := octalTail 2 v cs
          decodeAscii fuel (pos + 2 + (cs.length - rest.length)) rest (push n)
        | none =>
          match codeEscape? c with
          | some (count, message) =>
            match hexDigits count 0 0 cs with
            | .error done => .error (malformed pos (pos + 2 + done) message)
            | .ok (n, rest) =>
              if n ≤ 0x10FFFF then decodeAscii fuel (pos + 2 + count) rest (push n)
              else .error (malformed pos (pos + 2 + count) "illegal Unicode character")
          | none =>
            if c == 'N' then
              match cs with
              | '\x7b' :: more =>
                let named := more.takeWhile (· != '\x7d')
                let rest := more.dropWhile (· != '\x7d')
                match rest with
                | [] =>
                  .error (malformed pos (pos + 3 + named.length) "malformed \\N character escape")
                | _ :: after =>
                  if named.isEmpty then
                    .error (malformed pos (pos + 3) "malformed \\N character escape")
                  else decodeAscii fuel (pos + 4 + named.length) after (push 0xFFFD)
              | _ => .error (malformed pos (pos + 2) "malformed \\N character escape")
            else
              decodeAscii fuel (pos + 2) cs
                { points := c.toNat :: 92 :: acc.points, unknown := acc.unknown.or (some c) }
  | fuel + 1, pos, c :: cs, acc =>
    decodeAscii fuel (pos + 1) cs { acc with points := c.toNat :: acc.points }

/-- Decodes a text literal. -/
def decodeText (cs : List Char) : Except String Decoded :=
  let ascii := toAscii cs
  decodeAscii (ascii.length + 1) 0 ascii ⟨[], none⟩

/-- Decodes a byte literal of ASCII characters. -/
def decodeBytes : (fuel pos : Nat) → List Char → Decoded → Except String Decoded
  | 0, _, _, acc => .ok { acc with points := acc.points.reverse }
  | _ + 1, _, [], acc => .ok { acc with points := acc.points.reverse }
  | fuel + 1, pos, '\\' :: c :: cs, acc =>
    let push (n : Nat) : Decoded := { acc with points := n :: acc.points }
    if c == '\n' then decodeBytes fuel (pos + 2) cs acc
    else
      match simple? c with
      | some n => decodeBytes fuel (pos + 2) cs (push n)
      | none =>
        match octalValue? c with
        | some v =>
          let (n, rest) := octalTail 2 v cs
          decodeBytes fuel (pos + 2 + (cs.length - rest.length)) rest (push (n % 256))
        | none =>
          if c == 'x' then
            match hexDigits 2 0 0 cs with
            | .ok (n, rest) => decodeBytes fuel (pos + 4) rest (push n)
            | .error _ => .error s!"(value error) invalid \\x escape at position {pos}"
          else
            decodeBytes fuel (pos + 2) cs
              { points := c.toNat :: 92 :: acc.points, unknown := acc.unknown.or (some c) }
  | fuel + 1, pos, c :: cs, acc =>
    decodeBytes fuel (pos + 1) cs { acc with points := c.toNat :: acc.points }

end SourceUnit.Grammar.Escape
