import SourceUnit.ParsedUnit

/-! Finding tokens and comments by what their attributes are. -/
namespace SourceUnit

/-- What an attribute has to be. -/
inductive AttributeTest where
  | equals (v : Value)
  | startsWith (v : Value)

/-- A test for each of some attributes. -/
abbrev Query := List (String × AttributeTest)

namespace Query

/-- Whether an attribute passes a test. -/
def passes (name : String) (value? : Option Value) (test : AttributeTest) : Except Error Bool :=
  match value?, test with
  | none, _ => .error (.noAttribute name)
  | some a, .equals v => .ok (a.same v)
  | some (.str s), .startsWith (.str t) => .ok (t.isPrefixOf s)
  | some (.str _), .startsWith _ => .error .startNotText
  | some _, .startsWith _ => .error (.noAttribute name)

/-- Whether something passes all tests; those after the first that fails are not looked at. -/
def admits (value? : String → Option Value) : Query → Except Error Bool
  | [] => .ok true
  | (name, test) :: rest =>
    match passes name (value? name) test with
    | .ok true => admits value? rest
    | r => r

/-- The first thing that passes all tests. -/
def findIn {α : Type} (q : Query) (value? : α → String → Option Value) :
    List α → Except Error (Option α)
  | [] => .ok none
  | x :: xs =>
    match q.admits (value? x) with
    | .ok true => .ok (some x)
    | .ok false => q.findIn value? xs
    | .error e => .error e

end Query

def Comment.attribute? (c : Comment) : String → Option Value
  | "text" => some (.string c.text)
  | "line" => some (.int c.span.startLine)
  | _ => none

def Token.attribute? (t : Token) : String → Option Value
  | "type" => some (.string t.kind)
  | "text" => some (.string t.text)
  | "line" => some (.int t.span.startLine)
  | "column" => some (.int t.span.startCol)
  | "is_comment" => some (.bool t.isComment)
  | _ => none

namespace ParsedUnit

/-- The first comment that a query admits. -/
def findComment (u : ParsedUnit) (q : Query) : Except Error (Option Comment) :=
  q.findIn Comment.attribute? u.comments

/-- The first token that a query admits. -/
def findToken (u : ParsedUnit) (q : Query) : Except Error (Option Token) :=
  q.findIn Token.attribute? u.tokens

end ParsedUnit

end SourceUnit
