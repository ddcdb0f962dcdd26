import SourceUnit.Text.Class.Word
import SourceUnit.Token

/-! What can start at a place of a line, and how long it is. -/
namespace SourceUnit.Lexer

/-- White space between tokens. -/
def isSpace (c : Char) : Bool := c == ' ' || c == '\x0c' || c == '\t'

def isQuote (c : Char) : Bool := c == '\'' || c == '"'

/-! ### Numbers -/

def isDec (c : Char) : Bool := '0' ≤ c && c ≤ '9'

def isHex (c : Char) : Bool := isDec c || ('a' ≤ c && c ≤ 'f') || ('A' ≤ c && c ≤ 'F')

def isBin (c : Char) : Bool := c == '0' || c == '1'

def isOct (c : Char) : Bool := '0' ≤ c && c ≤ '7'

/-- The length of a run of digits that single underscores may divide, after a digit. -/
def moreDigits (p : Char → Bool) : List Char → Nat
  | '_' :: c :: rest => if p c then moreDigits p rest + 2 else 0
  | c :: rest => if p c then moreDigits p rest + 1 else 0
  | [] => 0

/-- The length of a run of digits. -/
def digits (p : Char → Bool) : List Char → Nat
  | c :: rest => if p c then moreDigits p rest + 1 else 0
  | [] => 0

/-- An exponent, or nothing. -/
def exponent : List Char → Nat
  | e :: rest =>
    if e == 'e' || e == 'E' then
      match rest with
      | sign :: rest' =>
        if sign == '+' || sign == '-' then
          let n := digits isDec rest'
          if n = 0 then 0 else n + 2
        else
          let n := digits isDec rest
          if n = 0 then 0 else n + 1
      | [] => 0
    else 0
  | [] => 0

/-- A number with a point or an exponent. -/
def floating (s : List Char) : Nat :=
  let n := digits isDec s
  match s.drop n with
  | '.' :: rest =>
    let m := digits isDec rest
    if n = 0 ∧ m = 0 then 0 else n + 1 + m + exponent (rest.drop m)
  | rest =>
    let e := exponent rest
    if n = 0 ∨ e = 0 then 0 else n + e

def isImaginaryMark : List Char → Bool
  | c :: _ => c == 'j' || c == 'J'
  | [] => false

/-- Digits after a letter for their base. -/
def based (p : Char → Bool) (letter : Char) : List Char → Nat
  | '0' :: c :: rest =>
    if c.toLower == letter then
      match rest with
      | '_' :: rest' =>
        let n := digits p rest'
        if n = 0 then 0 else n + 3
      | _ =>
        let n := digits p rest
        if n = 0 then 0 else n + 2
    else 0
  | _ => 0

/-- A whole number: zeros only, or digits that do not start with zero. -/
def plain (s : List Char) : Nat :=
  match s with
  | '0' :: _ => digits (· == '0') s
  | _ => digits isDec s

/-- The first of some lengths that is not zero. -/
def firstLength : List Nat → Nat
  | [] => 0
  | 0 :: ns => firstLength ns
  | n :: _ => n

/-- The length of the number at the start of a text, zero if there is none. -/
def number (s : List Char) : Nat :=
  let whole := digits isDec s
  let float := floating s
  if whole ≠ 0 ∧ isImaginaryMark (s.drop whole) then whole + 1
  else if float ≠ 0 ∧ isImaginaryMark (s.drop float) then float + 1
  else firstLength [float, based isHex 'x' s, based isBin 'b' s, based isOct 'o' s, plain s]

/-! ### Operators -/

/-- The length of the longest operator at the start of a text. -/
def operator (s : List Char) : Nat :=
  let isOp (n : Nat) : Bool :=
    n ≤ s.length && TokenKind.operators.any (·.1.toList == s.take n)
  if isOp 3 then 3 else if isOp 2 then 2 else if isOp 1 then 1 else 0

/-! ### Strings -/

/-- Whether letters can stand before a quote. -/
def areMarks (s : List Char) : Bool :=
  ["", "b", "r", "u", "f", "br", "rb", "fr", "rf"].any (·.toList == s.map Char.toLower)

/-- The number of letters before a quote, if a string can start here. -/
def marks? (s : List Char) : Option Nat :=
  [0, 1, 2].find? fun n =>
    areMarks (s.take n) && match s.drop n with
      | c :: _ => isQuote c
      | [] => false

/-- Opens a string in triple quotes: letters and quotes. -/
def tripleOpening (s : List Char) : Nat :=
  match marks? s with
  | some n =>
    match s.drop n with
    | a :: b :: c :: _ => if a == b && b == c then n + 3 else 0
    | _ => 0
  | none => 0

/-- A string on one line after its opening quote: up to the closing quote, or to a backslash at the
end of the line. -/
def lineString (quote : Char) : List Char → Option Nat
  | '\\' :: '\n' :: _ => some 2
  | '\\' :: _ :: rest => (lineString quote rest).map (· + 2)
  | c :: rest =>
    if c == quote then some 1
    else if c == '\n' || c == '\\' then none
    else (lineString quote rest).map (· + 1)
  | [] => none

/-- A string in single quotes that ends, or goes on, on its line. -/
def singleString (s : List Char) : Nat :=
  match marks? s with
  | some n =>
    match s.drop n with
    | q :: rest => ((lineString q rest).map (· + (n + 1))).getD 0
    | [] => 0
  | none => 0

/-- The rest of a string in triple quotes, if it ends here. A backslash at the end of a line hides
the end. -/
def tripleRest (quote : Char) : List Char → Option Nat
  | '\\' :: c :: rest => if c == '\n' then none else (tripleRest quote rest).map (· + 2)
  | ['\\'] => none
  | c :: rest =>
    if c == quote && rest.take 2 == [quote, quote] then some 3
    else (tripleRest quote rest).map (· + 1)
  | [] => none

/-- The rest of a string in single quotes, if it ends here. -/
def singleRest (quote : Char) : List Char → Option Nat
  | '\\' :: c :: rest => if c == '\n' then none else (singleRest quote rest).map (· + 2)
  | ['\\'] => none
  | c :: rest => if c == quote then some 1 else (singleRest quote rest).map (· + 1)
  | [] => none

/-! ### Tokens -/

/-- What starts at a place that is not white space. -/
inductive Start where
  /-- The end of the line. -/
  | nothing
  /-- A backslash before the line break. -/
  | joining
  | comment (length : Nat)
  | triple (length : Nat)
  | number (length : Nat)
  | lineBreak
  | operator (length : Nat)
  | string (length : Nat)
  /-- Letters, digits and underscores. -/
  | word (length : Nat)
  /-- Nothing that is known. -/
  | unknown
deriving DecidableEq, Repr

def word (s : List Char) : Nat := (s.takeWhile fun c => Text.isWord c).length

/-- Recognises what starts at a place; earlier cases win. -/
def start (s : List Char) : Start :=
  match s with
  | [] => .nothing
  | '\\' :: '\n' :: _ => .joining
  | '#' :: rest => .comment ((rest.takeWhile fun c => c != '\n' && c != '\r').length + 1)
  | '\n' :: _ => .lineBreak
  | _ =>
    if tripleOpening s ≠ 0 then .triple (tripleOpening s)
    else if number s ≠ 0 then .number (number s)
    else if operator s ≠ 0 then .operator (operator s)
    else if singleString s ≠ 0 then .string (singleString s)
    else if word s ≠ 0 then .word (word s)
    else .unknown

end SourceUnit.Lexer
