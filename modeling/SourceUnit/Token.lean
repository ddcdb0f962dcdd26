import SourceUnit.Error
import SourceUnit.Span

/-! Tokens for display: raw ones as a lexer produces them, with a number for their kind, and named
ones, where an operator has a name of its own. -/
namespace SourceUnit

/-- A token as a lexer produces it. -/
structure RawToken where
  kind : Int
  text : String
  span : Span
deriving DecidableEq, Repr

/-- A token with the exact name of its kind. -/
structure Token where
  kind : String
  text : String
  span : Span
deriving DecidableEq, Repr

/-- A comment with its place. -/
structure Comment where
  text : String
  span : Span
deriving DecidableEq, Repr

namespace TokenKind

/-- Names of the kinds, by number from zero. -/
def names : List String := [
  "ENDMARKER", "NAME", "NUMBER", "STRING", "NEWLINE", "INDENT", "DEDENT", "LPAR", "RPAR", "LSQB",
  "RSQB", "COLON", "COMMA", "SEMI", "PLUS", "MINUS", "STAR", "SLASH", "VBAR", "AMPER", "LESS",
  "GREATER", "EQUAL", "DOT", "PERCENT", "LBRACE", "RBRACE", "EQEQUAL", "NOTEQUAL", "LESSEQUAL",
  "GREATEREQUAL", "TILDE", "CIRCUMFLEX", "LEFTSHIFT", "RIGHTSHIFT", "DOUBLESTAR", "PLUSEQUAL",
  "MINEQUAL", "STAREQUAL", "SLASHEQUAL", "PERCENTEQUAL", "AMPEREQUAL", "VBAREQUAL",
  "CIRCUMFLEXEQUAL", "LEFTSHIFTEQUAL", "RIGHTSHIFTEQUAL", "DOUBLESTAREQUAL", "DOUBLESLASH",
  "DOUBLESLASHEQUAL", "AT", "ATEQUAL", "RARROW", "ELLIPSIS", "COLONEQUAL", "OP", "AWAIT", "ASYNC",
  "TYPE_IGNORE", "TYPE_COMMENT", "SOFT_KEYWORD", "ERRORTOKEN", "COMMENT", "NL", "ENCODING",
  "N_TOKENS"]

def endMarker : Int := 0
def name : Int := 1
def number : Int := 2
def string : Int := 3
def newline : Int := 4
def indent : Int := 5
def dedent : Int := 6
def op : Int := 54
def errorToken : Int := 60
def comment : Int := 61
def blankLine : Int := 62

/-- The spelling of every operator with its exact name. -/
def operators : List (String × String) := [
  ("!=", "NOTEQUAL"), ("%", "PERCENT"), ("%=", "PERCENTEQUAL"), ("&", "AMPER"),
  ("&=", "AMPEREQUAL"), ("(", "LPAR"), (")", "RPAR"), ("*", "STAR"), ("**", "DOUBLESTAR"),
  ("**=", "DOUBLESTAREQUAL"), ("*=", "STAREQUAL"), ("+", "PLUS"), ("+=", "PLUSEQUAL"),
  (",", "COMMA"), ("-", "MINUS"), ("-=", "MINEQUAL"), ("->", "RARROW"), (".", "DOT"),
  ("...", "ELLIPSIS"), ("/", "SLASH"), ("//", "DOUBLESLASH"), ("//=", "DOUBLESLASHEQUAL"),
  ("/=", "SLASHEQUAL"), (":", "COLON"), (":=", "COLONEQUAL"), (";", "SEMI"), ("<", "LESS"),
  ("<<", "LEFTSHIFT"), ("<<=", "LEFTSHIFTEQUAL"), ("<=", "LESSEQUAL"), ("=", "EQUAL"),
  ("==", "EQEQUAL"), (">", "GREATER"), (">=", "GREATEREQUAL"), (">>", "RIGHTSHIFT"),
  (">>=", "RIGHTSHIFTEQUAL"), ("@", "AT"), ("@=", "ATEQUAL"), ("[", "LSQB"), ("]", "RSQB"),
  ("^", "CIRCUMFLEX"), ("^=", "CIRCUMFLEXEQUAL"), ("\x7b", "LBRACE"), ("|", "VBAR"),
  ("|=", "VBAREQUAL"), ("\x7d", "RBRACE"), ("~", "TILDE")]

/-- The name of a kind, if it has one. -/
def nameOf? (kind : Int) : Option String :=
  if kind = 256 then some "NT_OFFSET"
  else if 0 ≤ kind then names[kind.toNat]? else none

/-- The kind of a name. -/
def ofName? (s : String) : Option Int :=
  if s = "NT_OFFSET" then some 256 else (names.idxOf? s).map fun i => (i : Int)

end TokenKind

namespace RawToken

/-- The exact name of a token's kind: an operator is named by its spelling. -/
def exactName? (t : RawToken) : Option String :=
  if t.kind = TokenKind.op then
    match TokenKind.operators.lookup t.text with
    | some n => some n
    | none => some "OP"
  else TokenKind.nameOf? t.kind

def toToken (t : RawToken) : Except Error Token :=
  match t.exactName? with
  | some kind => .ok ⟨kind, t.text, t.span⟩
  | none => .error (.unnamedTokenKind t.kind)

/-- The comment a token is, if it is one. -/
def comment? (t : RawToken) : Option Comment :=
  if t.kind = TokenKind.comment then some ⟨t.text, t.span⟩ else none

end RawToken

def Token.isComment (t : Token) : Bool := t.kind == "COMMENT"

end SourceUnit
