import SourceUnit.Error
import SourceUnit.Text.Class.Blank
import SourceUnit.Text.Class.Digit

/-! Reading a release from what a caller gives: a release, a pair of whole numbers, or text such as
`3.10` with white space around it and digits of any script. -/
namespace SourceUnit.Release

/-- The most digits a number may have. -/
def maxDigits : Nat := 4300

/-- What a text says. -/
inductive Reading where
  | release (r : Release)
  /-- The text has the right shape, but one of its numbers is too long. -/
  | tooLong
  | none
deriving DecidableEq, Repr

def digitsValue (ds : List CodePoint) : Nat :=
  ds.foldl (fun n c => 10 * n + (Text.digitValue? c.val).getD 0) 0

/-- Reads white space, digits, a point, digits and white space. -/
def ofText (s : List CodePoint) : Reading :=
  let isDigit (c : CodePoint) : Bool := Text.isDigit c.val
  let isBlank (c : CodePoint) : Bool := Text.isBlank c.val
  let s := s.dropWhile isBlank
  let major := s.takeWhile isDigit
  match s.dropWhile isDigit with
  | point :: rest =>
    let minor := rest.takeWhile isDigit
    if point.val = 46 ∧ major ≠ [] ∧ minor ≠ [] ∧ (rest.dropWhile isDigit).all isBlank then
      if maxDigits < major.length ∨ maxDigits < minor.length then .tooLong
      else .release ⟨digitsValue major, digitsValue minor⟩
    else .none
  | [] => .none

def isShort (n : Int) : Bool := n.natAbs < Nat.pow 10 maxDigits

/-- Whether both numbers of a release can be written out. -/
def isWritable (r : Release) : Bool := isShort r.major && isShort r.minor

/-- The text of a release, unless a number in it is too long to be written out. -/
def write (r : Release) : Except Error String :=
  if r.isWritable then .ok r.text else .error .numberTooLong

mutual

/-- Whether a value can be shown in a message; a number that is too long cannot be written out. -/
def isShowable : Value → Bool
  | .int n => isShort n
  | .list vs => areShowable vs
  | .tuple vs => areShowable vs
  | .dict es => entriesShowable es
  | .release r => r.isWritable
  | _ => true

def areShowable : List Value → Bool
  | [] => true
  | v :: vs => isShowable v && areShowable vs

def entriesShowable : List (Value × Value) → Bool
  | [] => true
  | (k, v) :: es => isShowable k && isShowable v && entriesShowable es

end

/-- The release a value names. A value that names none is shown in the message, if it can be. -/
def parse (v : Value) : Except Error Release :=
  match v with
  | .release r => .ok r
  | .tuple [.int major, .int minor] => .ok ⟨major, minor⟩
  | .str s =>
    match ofText s with
    | .release r => .ok r
    | .tooLong => .error .numberTooLong
    | .none => .error (.unknownRelease v)
  | _ => .error (if isShowable v then .unknownRelease v else .numberTooLong)

end SourceUnit.Release
