/-! The shortest decimal that reads back as a given double: of all decimals in the interval of
reals that round to the value, one with the fewest digits, and of those the nearest. -/
namespace SourceUnit.Decimal

/-- A positive decimal: digits times a power of ten. -/
structure Scientific where
  digits : Nat
  exponent : Int
deriving DecidableEq, Repr

/-- A positive binary number: mantissa times a power of two. The interval that rounds to it reaches
half a step up, and half a step down, or a quarter where the spacing changes. -/
structure Binary where
  mantissa : Nat
  exponent : Int
  /-- Whether the numbers below lie closer together. -/
  narrowBelow : Bool
deriving DecidableEq, Repr

/-- A fraction: numerator and denominator. -/
structure Ratio where
  num : Nat
  den : Nat

/-- The value times `4 / 2 ^ k` over ten to the power `e`, so that the interval has whole ends. -/
def scaled (b : Binary) (quarters : Nat) (e : Int) : Ratio :=
  let num := quarters * Nat.pow 2 (b.exponent - 2).toNat * Nat.pow 10 (-e).toNat
  let den := Nat.pow 2 (2 - b.exponent).toNat * Nat.pow 10 e.toNat
  ⟨num, den⟩

/-- Whether a multiple of ten to the power `e` rounds to the value. -/
def readsBack (b : Binary) (n : Nat) (e : Int) : Bool :=
  let low := scaled b (4 * b.mantissa - (if b.narrowBelow then 1 else 2)) e
  let high := scaled b (4 * b.mantissa + 2) e
  if b.mantissa % 2 = 0 then low.num ≤ n * low.den && n * high.den ≤ high.num
  else low.num < n * low.den && n * high.den < high.num

/-- The multiple of ten to the power `e` to choose, if one reads back: of the two neighbours of the
value the nearer one that does, the even one on a tie. -/
def candidate? (b : Binary) (e : Int) : Option Nat :=
  let v := scaled b (4 * b.mantissa) e
  let lower := v.num / v.den
  let rest := v.num % v.den
  let lowOk := lower ≠ 0 && readsBack b lower e
  let highOk := readsBack b (lower + 1) e
  if rest = 0 then some lower
  else if lowOk && highOk then
    if 2 * rest < v.den then some lower
    else if v.den < 2 * rest then some (lower + 1)
    else if lower % 2 = 0 then some lower else some (lower + 1)
  else if lowOk then some lower
  else if highOk then some (lower + 1)
  else none

/-- Removes the zeros at the end of the digits. -/
def stripZeros : (fuel : Nat) → Scientific → Scientific
  | 0, s => s
  | fuel + 1, s =>
    if s.digits ≠ 0 ∧ s.digits % 10 = 0 then stripZeros fuel ⟨s.digits / 10, s.exponent + 1⟩ else s

/-- Tries coarse grids first; the last one always has a hit. -/
def search (b : Binary) : (fuel : Nat) → (e : Int) → Scientific
  | 0, e => ⟨(scaled b (4 * b.mantissa) e).num / (scaled b (4 * b.mantissa) e).den, e⟩
  | fuel + 1, e =>
    match candidate? b e with
    | some n => stripZeros 20 ⟨n, e⟩
    | none => search b fuel (e - 1)

/-- The shortest decimal of a binary number. No double needs more than seventeen digits, so the grids
from the leading digit down to the eighteenth are enough. -/
def shortest (b : Binary) : Scientific :=
  -- the value lies below 2 ^ bits, hence below ten to the power `top`
  let bits : Int := b.exponent + Nat.log2 b.mantissa + 1
  let top : Int := if 0 ≤ bits then bits * 30103 / 100000 + 1 else -((-bits) * 30102 / 100000) + 1
  search b 21 top

/-- The magnitude of a finite double that is not zero. -/
def ofBits (bits : UInt64) : Binary :=
  let fraction := (bits &&& 0xFFFFFFFFFFFFF).toNat
  let field := (bits >>> 52 &&& 0x7FF).toNat
  if field = 0 then ⟨fraction, -1074, false⟩
  else ⟨fraction + 0x10000000000000, (field : Int) - 1075, fraction == 0 && field != 1⟩

/-- Writes a decimal: positional when the point falls near the digits, else with an exponent of at
least two digits. A positional number always shows a digit after the point. -/
def write (s : Scientific) : String :=
  let digits := (toString s.digits).toList
  let n : Int := digits.length
  let point := n + s.exponent
  if -4 < point ∧ point ≤ 16 then
    if point ≤ 0 then "0." ++ String.ofList (List.replicate (-point).toNat '0' ++ digits)
    else if n ≤ point then
      String.ofList (digits ++ List.replicate (point - n).toNat '0') ++ ".0"
    else String.ofList (digits.take point.toNat ++ '.' :: digits.drop point.toNat)
  else
    let e := point - 1
    let size := toString e.natAbs
    let size := if size.length < 2 then "0" ++ size else size
    let mantissa := match digits with
      | [d] => [d]
      | d :: rest => d :: '.' :: rest
      | [] => []
    String.ofList mantissa ++ "e" ++ (if e < 0 then "-" else "+") ++ size

/-- The text of a double. -/
def float (x : Float) : String :=
  let bits := x.toBits
  let negative := bits >>> 63 == 1
  let field := (bits >>> 52 &&& 0x7FF).toNat
  let fraction := (bits &&& 0xFFFFFFFFFFFFF).toNat
  if field = 0x7FF then
    if fraction ≠ 0 then "nan" else if negative then "-inf" else "inf"
  else
    (if negative then "-" else "") ++
      (if field = 0 ∧ fraction = 0 then "0.0" else write (shortest (ofBits bits)))

end SourceUnit.Decimal
