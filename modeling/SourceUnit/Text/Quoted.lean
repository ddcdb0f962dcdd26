import SourceUnit.Text.CodePoint
import SourceUnit.Text.Class.Printable

/-! Quoted text: single quotes unless only they occur inside; what cannot be printed is written as
an escape of two, four or eight hexadecimal digits. -/
namespace SourceUnit.Quoted

def hexDigit (n : Nat) : Char := Char.ofNat (if n < 10 then 48 + n else 87 + n)

/-- The last digits of a number in base sixteen, as many as asked for. -/
def hex : (digits : Nat) → Nat → List Char
  | 0, _ => []
  | d + 1, n => hex d (n / 16) ++ [hexDigit (n % 16)]

/-- The quote to put around a text that holds the given quotes. -/
def quoteFor (single double : Bool) : Char := if single && !double then '"' else '\''

/-- How a code point is written between quotes. -/
def point (quote : Char) (c : Nat) : List Char :=
  if c = quote.toNat ∨ c = 92 then ['\\', Char.ofNat c]
  else if c = 9 then ['\\', 't']
  else if c = 10 then ['\\', 'n']
  else if c = 13 then ['\\', 'r']
  else if 32 ≤ c ∧ c < 127 then [Char.ofNat c]
  else if 128 ≤ c ∧ Text.isPrintable c then [Char.ofNat c]
  else if c < 0x100 then '\\' :: 'x' :: hex 2 c
  else if c < 0x10000 then '\\' :: 'u' :: hex 4 c
  else '\\' :: 'U' :: hex 8 c

/-- How a byte is written between quotes. -/
def byte (quote : Char) (b : UInt8) : List Char :=
  let c := b.toNat
  if c < 127 then point quote c else '\\' :: 'x' :: hex 2 c

def text (s : List CodePoint) : String :=
  let q := quoteFor (s.any (·.val == 39)) (s.any (·.val == 34))
  String.ofList (q :: s.flatMap (fun c => point q c.val) ++ [q])

def string (s : String) : String := text (CodePoint.ofText s)

def bytes (bs : List UInt8) : String :=
  let q := quoteFor (bs.contains 39) (bs.contains 34)
  String.ofList ('b' :: q :: bs.flatMap (byte q) ++ [q])

end SourceUnit.Quoted
