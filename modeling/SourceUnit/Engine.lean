import SourceUnit.Fault
import SourceUnit.Node
import SourceUnit.Token

/-! What a lexer and a parser say about a text. They are independent of each other: the lexer's
tokens are for display and survive a parse that fails. -/
namespace SourceUnit

/-- Why a lexer broke off. -/
inductive LexFault where
  /-- A fault of the lexer's own, with its arguments: a message and a location. -/
  | token (args : List Value)
  | syntactic (fault : SyntaxFault)

/-- What a lexer produced before it ended or broke off. -/
structure Lexing where
  tokens : List RawToken
  fault : Option LexFault := none

/-- Why a parser gave up. -/
inductive ParseFault where
  | syntactic (fault : SyntaxFault)
  /-- The text cannot be parsed at all. -/
  | refused (message : String)
deriving DecidableEq, Repr

/-- The root of a parsed text, and whether its list of statements is empty, if it has one. -/
structure Module where
  root : Node
  isEmpty : Option Bool

/-- What a parser said: its doubts, then a fault or a module, which may be absent. -/
structure Parsing where
  warnings : List Warning := []
  result : Except ParseFault (Option Module)

/-- What a backend hands over as the root of a tree. -/
inductive Root where
  | absent
  | node (n : Node)
  /-- Something else, with the name of its type. -/
  | foreign (typeName : String)

/-- A lexer and a parser. The parser is told the name of the text and the release; it may break down
instead of answering. -/
structure Engine where
  lex : List Char → Lexing
  parse : (name : String) → (release : Release) → List Char → Except Error Parsing

/-- An engine that always says the same. -/
def Engine.scripted (lexing : Lexing) (parsing : Parsing) : Engine where
  lex _ := lexing
  parse _ _ _ := .ok parsing

end SourceUnit
