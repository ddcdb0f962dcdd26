/-! Code points. Text that comes from outside may hold surrogates, which are code points but no
characters. -/
namespace SourceUnit

/-- A code point: a character or a surrogate. -/
abbrev CodePoint := Fin 0x110000

namespace CodePoint

def isSurrogate (c : CodePoint) : Bool := 0xD800 ≤ c.val && c.val ≤ 0xDFFF

def ofChar (c : Char) : CodePoint :=
  ⟨c.toNat, by
    have h := c.valid
    simp only [UInt32.isValidChar, Nat.isValidChar] at h
    simp only [Char.toNat]
    omega⟩

/-- The character of a code point, if it is one. -/
def toChar? (c : CodePoint) : Option Char :=
  if h : c.val.isValidChar then some (Char.ofNatAux c.val h) else none

/-- The characters of a text, with each surrogate shown as a replacement character. -/
def toText (cs : List CodePoint) : String :=
  String.ofList (cs.map fun c => (toChar? c).getD '�')

def ofText (s : String) : List CodePoint := s.toList.map ofChar

end CodePoint

end SourceUnit
