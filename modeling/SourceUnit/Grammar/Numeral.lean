import SourceUnit.Grammar.Lexeme

/-! Number literals. A numeral never leaves its line, so it is scanned by index alone. -/
namespace SourceUnit.Grammar

/-- Outcome of scanning a numeral. -/
inductive Numeral where
  /-- The numeral ends before `stop`; the doubt names its class when a keyword follows directly. -/
  | done (stop : Nat) (doubt : Option String)
  /-- The numeral is wrong at `cur`; a given range of columns replaces the place of the fault. -/
  | wrong (cur : Nat) (message : String) (range : Option (Int × Int))

namespace Numeral

def isDigit (c : Char) : Bool := '0' ≤ c && c ≤ '9'

def isHex (c : Char) : Bool := isDigit c || ('a' ≤ c && c ≤ 'f') || ('A' ≤ c && c ≤ 'F')

def isOctal (c : Char) : Bool := '0' ≤ c && c ≤ '7'

def isBinary (c : Char) : Bool := c == '0' || c == '1'

/-- True of a character that would continue a name. -/
def joinsName (c : Char) : Bool :=
  isDigit c || ('a' ≤ c && c ≤ 'z') || ('A' ≤ c && c ≤ 'Z') || c == '_' || c.toNat ≥ 128

/-- True when the text at `i` starts with the given letters. -/
def reads (s : Source) (i : Nat) (letters : List Char) : Bool :=
  match letters with
  | [] => true
  | c :: rest => s.get i == c && reads s (i + 1) rest

/-- Keywords that may stand right after a number, by their first letter. -/
def keywordAt (s : Source) (i : Nat) : Bool :=
  ["and", "else", "for", "if", "in", "is", "or", "not"].any fun w => reads s i w.toList

/-- The numeral ends before `i`, unless a letter, digit or underscore follows directly. -/
def close (s : Source) (i : Nat) (cls : String) : Numeral :=
  if keywordAt s i then .done i (some cls)
  else if joinsName (s.get i) then .wrong i s!"invalid {cls} literal" none
  else .done i none

/-- Digits of one base after its mark, in groups joined by single underscores. -/
def based (s : Source) (isOwn : Char → Bool) (cls : String) (decimalWrong : Bool) :
    (fuel i : Nat) → Numeral
  | 0, i => .wrong i s!"invalid {cls} literal" none
  | fuel + 1, i =>
    let i := if s.get i == '_' then i + 1 else i
    if !isOwn (s.get i) then
      if decimalWrong && isDigit (s.get i) then
        .wrong (i + 1) s!"invalid digit '{s.get i}' in {cls} literal" none
      else .wrong i s!"invalid {cls} literal" none
    else
      let j := s.skipWhile isOwn i
      if s.get j == '_' then based s isOwn cls decimalWrong fuel j
      else if decimalWrong && isDigit (s.get j) then
        .wrong (j + 1) s!"invalid digit '{s.get j}' in {cls} literal" none
      else close s j cls

/-- The rest of a run of decimal digits; an underscore must stand between two digits. -/
def decimalTail (s : Source) : (fuel i : Nat) → Except Nat Nat
  | 0, i => .ok i
  | fuel + 1, i =>
    let j := s.skipWhile isDigit i
    if s.get j == '_' then
      if isDigit (s.get (j + 1)) then decimalTail s fuel (j + 2) else .error (j + 1)
    else .ok j

def badDecimal (cur : Nat) : Numeral := .wrong cur "invalid decimal literal" none

/-- After the mark of an imaginary number. -/
def imaginary (s : Source) (i : Nat) : Numeral := close s i "imaginary"

/-- What may follow the digits of a decimal number. -/
def suffix (s : Source) (i : Nat) : Numeral :=
  if s.get i == 'j' || s.get i == 'J' then imaginary s (i + 1) else close s i "decimal"

/-- From the mark of the exponent on. A mark without digits belongs to what follows. -/
def exponent (s : Source) (i : Nat) : Numeral :=
  let sign := s.get (i + 1) == '+' || s.get (i + 1) == '-'
  let j := if sign then i + 2 else i + 1
  if isDigit (s.get j) then
    match decimalTail s s.size (j + 1) with
    | .ok k => suffix s k
    | .error cur => badDecimal cur
  else if sign then badDecimal j
  else close s i "decimal"

/-- From after the digits before a possible exponent on. -/
def afterFraction (s : Source) (i : Nat) : Numeral :=
  if s.get i == 'e' || s.get i == 'E' then exponent s i else suffix s i

/-- From after the decimal point on. -/
def fraction (s : Source) (i : Nat) : Numeral :=
  if isDigit (s.get i) then
    match decimalTail s s.size (i + 1) with
    | .ok k => afterFraction s k
    | .error cur => badDecimal cur
  else afterFraction s i

/-- Zeros at the start of a number, joined by single underscores. -/
def zeros (s : Source) : (fuel i : Nat) → Except Nat Nat
  | 0, i => .ok i
  | fuel + 1, i =>
    if s.get i == '_' then
      if !isDigit (s.get (i + 1)) then .error (i + 1)
      else if s.get (i + 1) == '0' then zeros s fuel (i + 2)
      else .ok (i + 1)
    else if s.get i == '0' then zeros s fuel (i + 1)
    else .ok i

/-- A number that starts with a plain zero: zero itself, or a number with a fraction, exponent or
imaginary mark. -/
def afterZero (s : Source) (lineStart start i : Nat) : Numeral :=
  match zeros s s.size i with
  | .error cur => badDecimal cur
  | .ok j =>
    let tail := if isDigit (s.get j) then decimalTail s s.size (j + 1) else .ok j
    match tail with
    | .error cur => badDecimal cur
    | .ok k =>
      let c := s.get k
      if c == '.' then fraction s (k + 1)
      else if c == 'e' || c == 'E' then exponent s k
      else if c == 'j' || c == 'J' then imaginary s (k + 1)
      else if isDigit (s.get j) then
        .wrong k
          ("leading zeros in decimal integer literals are not permitted; "
            ++ "use an 0o prefix for octal integers")
          (some (s.col lineStart (start + 1), s.col lineStart (j + 1)))
      else close s k "decimal"

/-- A number that starts with the digit at `start`. -/
def scan (s : Source) (lineStart start : Nat) : Numeral :=
  if s.get start == '0' then
    let mark := s.get (start + 1)
    if mark == 'x' || mark == 'X' then based s isHex "hexadecimal" false s.size (start + 2)
    else if mark == 'o' || mark == 'O' then based s isOctal "octal" true s.size (start + 2)
    else if mark == 'b' || mark == 'B' then based s isBinary "binary" true s.size (start + 2)
    else afterZero s lineStart start (start + 1)
  else
    match decimalTail s s.size (start + 1) with
    | .error cur => badDecimal cur
    | .ok k => if s.get k == '.' then fraction s (k + 1) else afterFraction s k

end Numeral

end SourceUnit.Grammar
