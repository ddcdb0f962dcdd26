import SourceUnit.Decimal
import SourceUnit.Release
import SourceUnit.Text.Quoted

/-! Values that callers hand in where any value may stand, and how they are shown in messages. -/
namespace SourceUnit

inductive Value where
  | none
  | bool (b : Bool)
  | int (n : Int)
  | float (x : Float)
  | str (s : List CodePoint)
  | bytes (bs : List UInt8)
  | list (vs : List Value)
  | tuple (vs : List Value)
  | dict (entries : List (Value × Value))
  | release (r : Release)
deriving Inhabited

namespace Value

def string (s : String) : Value := str (CodePoint.ofText s)

mutual

/-- The text of a value as it stands inside other values. -/
def quoted : Value → String
  | none => "None"
  | bool b => if b then "True" else "False"
  | int n => toString n
  | float x => Decimal.float x
  | str s => Quoted.text s
  | bytes bs => Quoted.bytes bs
  | list vs => "[" ++ ", ".intercalate (quotedAll vs) ++ "]"
  | tuple [v] => "(" ++ quoted v ++ ",)"
  | tuple vs => "(" ++ ", ".intercalate (quotedAll vs) ++ ")"
  | dict es => "\x7b" ++ ", ".intercalate (quotedEntries es) ++ "\x7d"
  | release r =>
    "DialectVersion(major=" ++ toString r.major ++ ", minor=" ++ toString r.minor ++ ")"

def quotedAll : List Value → List String
  | [] => []
  | v :: vs => quoted v :: quotedAll vs

def quotedEntries : List (Value × Value) → List String
  | [] => []
  | (k, v) :: es => (quoted k ++ ": " ++ quoted v) :: quotedEntries es

end

/-- The text of a value on its own: text stands for itself, a release is shown by its number. -/
def plain : Value → String
  | str s => CodePoint.toText s
  | release r => r.text
  | v => quoted v

/-- The whole number that a value counts as in comparisons. -/
def whole? : Value → Option Int
  | int n => some n
  | bool b => some (if b then 1 else 0)
  | _ => Option.none

/-- Equality of values. Numbers and truth values compare as numbers; all else is equal if it is
shown alike. -/
def same (a b : Value) : Bool :=
  match a, b with
  | float x, float y => x == y
  | float x, _ => (whole? b).any (Float.ofInt · == x)
  | _, float y => (whole? a).any (Float.ofInt · == y)
  | _, _ =>
    match whole? a, whole? b with
    | some m, some n => m == n
    | Option.none, Option.none => a.quoted == b.quoted
    | _, _ => false

/-- Adds an entry, or replaces the value of the one that has its key. -/
def insertEntry (es : List (Value × Value)) (k v : Value) : List (Value × Value) :=
  if es.any (·.1.same k) then es.map fun e => if e.1.same k then (e.1, v) else e
  else es ++ [(k, v)]

/-- A dictionary of entries in order; of entries with one key the last one counts. -/
def ofEntries (es : List (Value × Value)) : Value :=
  dict (es.foldl (fun acc e => insertEntry acc e.1 e.2) [])

end Value

end SourceUnit
