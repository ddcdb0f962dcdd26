import SourceUnit.Text.Quoted

/-! SHA-1, written out in hexadecimal. -/
namespace SourceUnit.Digest

/-- Eight bytes of a number, the highest first. -/
def bytes64 (n : Nat) : List UInt8 :=
  [56, 48, 40, 32, 24, 16, 8, 0].map fun s => UInt8.ofNat (n >>> s)

/-- The message, a one bit, zeros, and its length in bits, filling whole blocks. -/
def pad (message : List UInt8) : List UInt8 :=
  let n := message.length
  message ++ 0x80 :: List.replicate ((119 - n % 64) % 64) 0 ++ bytes64 (8 * n)

/-- Four bytes as a word, the highest first. -/
def words : List UInt8 → List UInt32
  | a :: b :: c :: d :: rest =>
    ((a.toUInt32 <<< 24) ||| (b.toUInt32 <<< 16) ||| (c.toUInt32 <<< 8) ||| d.toUInt32) :: words rest
  | _ => []

def rotate (x : UInt32) (n : UInt32) : UInt32 := (x <<< n) ||| (x >>> (32 - n))

/-- Extends sixteen words to eighty. -/
def schedule (block : List UInt32) : Array UInt32 :=
  (List.range 64).foldl (fun w _ =>
    let earlier (back : Nat) : UInt32 := (w[w.size - back]?).getD 0
    w.push (rotate (earlier 3 ^^^ earlier 8 ^^^ earlier 14 ^^^ earlier 16) 1)) block.toArray

structure State where
  a : UInt32
  b : UInt32
  c : UInt32
  d : UInt32
  e : UInt32

def initial : State := ⟨0x67452301, 0xEFCDAB89, 0x98BADCFE, 0x10325476, 0xC3D2E1F0⟩

def round (s : State) (i : Nat) (w : UInt32) : State :=
  let (f, k) :=
    if i < 20 then ((s.b &&& s.c) ||| (~~~s.b &&& s.d), (0x5A827999 : UInt32))
    else if i < 40 then (s.b ^^^ s.c ^^^ s.d, 0x6ED9EBA1)
    else if i < 60 then ((s.b &&& s.c) ||| (s.b &&& s.d) ||| (s.c &&& s.d), 0x8F1BBCDC)
    else (s.b ^^^ s.c ^^^ s.d, 0xCA62C1D6)
  ⟨rotate s.a 5 + f + s.e + k + w, s.a, rotate s.b 30, s.c, s.d⟩

def block (s : State) (ws : List UInt32) : State :=
  let w := schedule ws
  let t := (List.range 80).foldl (fun t i => round t i ((w[i]?).getD 0)) s
  ⟨s.a + t.a, s.b + t.b, s.c + t.c, s.d + t.d, s.e + t.e⟩

/-- Takes block after block. -/
def blocks : (fuel : Nat) → State → List UInt32 → State
  | 0, s, _ => s
  | fuel + 1, s, ws => if ws.isEmpty then s else blocks fuel (block s (ws.take 16)) (ws.drop 16)

def sha1 (message : List UInt8) : State :=
  let ws := words (pad message)
  blocks (ws.length / 16 + 1) initial ws

def State.text (s : State) : String :=
  String.ofList ([s.a, s.b, s.c, s.d, s.e].flatMap fun w => Quoted.hex 8 w.toNat)

end SourceUnit.Digest
