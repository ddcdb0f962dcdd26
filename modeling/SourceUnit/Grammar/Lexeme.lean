import SourceUnit.Fault
import SourceUnit.Grammar.Tree
import SourceUnit.Text.Line

/-! Lexemes as the strict scanner hands them to the grammar. Each keeps the reading position after
it, because an error is placed relative to how far the text has been read. -/
namespace SourceUnit.Grammar

/-- Text to be scanned, with the number of UTF-8 bytes before each character. -/
structure Source where
  chars : Array Char
  offsets : Array Nat

namespace Source

/-- Byte offsets of the characters, and of the end. -/
def byteOffsets (cs : List Char) : Array Nat :=
  cs.foldl (fun acc c => acc.push ((acc.back?.getD 0) + c.utf8Size)) #[0]

def ofChars (cs : List Char) : Source := ⟨cs.toArray, byteOffsets cs⟩

def size (s : Source) : Nat := s.chars.size

/-- The character at an index; NUL past the end, which no scanned text contains. -/
def get (s : Source) (i : Nat) : Char := (s.chars[i]?).getD '\x00'

/-- Bytes before the character at an index. -/
def offset (s : Source) (i : Nat) : Nat := (s.offsets[i]?).getD (s.offsets.back?.getD 0)

/-- Byte column of an index on the line that starts at `lineStart`. -/
def col (s : Source) (lineStart i : Nat) : Int := (s.offset i : Int) - (s.offset lineStart : Int)

/-- The text between two indices. -/
def slice (s : Source) (start stop : Nat) : String :=
  String.ofList (s.chars.extract start stop).toList

/-- The first index from `i` on whose character fails the test. -/
def skipWhile (s : Source) (p : Char → Bool) (i : Nat) : Nat :=
  if h : i < s.chars.size then
    if p s.chars[i] then skipWhile s p (i + 1) else i
  else i
termination_by s.chars.size - i

/-- One past the line break that ends the line holding `i`. -/
def lineEnd (s : Source) (i : Nat) : Nat :=
  let j := s.skipWhile (· != '\n') i
  if j < s.size then j + 1 else j

end Source

/-- True when the text ends in a carriage return and line feed. -/
def endsInPair : List Char → Bool
  | [] => false
  | ['\r', '\n'] => true
  | _ :: rest => endsInPair rest

/-- Text as the scanner reads it: unified line breaks, and a final one added unless the text ends in
a single-character break. -/
def scannable (text : List Char) : List Char :=
  let unified := Text.unifyBreaks text
  if endsInPair text || unified.getLast? != some '\n' then unified ++ ['\n'] else unified

/-- A reading position: the next index, the line it is on, and the stretch held in hand. -/
structure Cursor where
  cur : Nat := 0
  line : Nat := 0
  lineStart : Nat := 0
  /-- End of the line read so far. -/
  inp : Nat := 0
  /-- Start of the stretch in hand; a lexeme that spans lines keeps it at its first line. -/
  buf : Nat := 0
  /-- Whether the end of the text has been seen. -/
  ended : Bool := false
deriving DecidableEq, Repr

/-- Reads one character. `fresh` says that no lexeme is under way. -/
def Cursor.next (s : Source) (fresh : Bool) (c : Cursor) : Option Char × Cursor :=
  if c.cur < c.inp then
    (s.chars[c.cur]?, { c with cur := c.cur + 1 })
  else if c.ended then (none, c)
  else if c.inp < s.size then
    (s.chars[c.cur]?,
      { c with
        cur := c.cur + 1
        line := c.line + 1
        lineStart := c.cur
        inp := s.lineEnd c.inp
        buf := if fresh then c.cur else c.buf })
  else (none, { c with cur := c.inp, ended := true })

/-- Steps back over the character just read. -/
def Cursor.back (c : Cursor) (read : Option Char) : Cursor :=
  if read.isSome then { c with cur := c.cur - 1 } else c

/-- The classes of lexeme. Words with a fixed meaning are keywords. -/
inductive LexemeKind where
  | name
  | keyword
  | number
  | string
  | newline
  | indent
  | dedent
  | stop
  | op
  | bad
deriving DecidableEq, Repr

/-- One lexeme, with the bracket depth after it and the doubts it raised. -/
structure Lexeme where
  kind : LexemeKind
  text : String
  place : Place
  depth : Nat
  after : Cursor
  doubts : List Warning := []
deriving Repr

/-- An opening bracket still to be closed. -/
structure Bracket where
  opening : Char
  line : Nat
  col : Int
deriving Repr

/-- Why scanning broke off. -/
inductive ScanFault where
  /-- A fault the scanner describes itself. -/
  | told (fault : SyntaxFault)
  /-- The text ended inside brackets or after a continuation mark. -/
  | ended
  /-- A line is indented less than its block but not as an enclosing one. -/
  | dedent
  /-- Tabs and spaces disagree. -/
  | tabs
  /-- Too many nested blocks. -/
  | tooDeep
  /-- A continuation mark is not the last character of its line. -/
  | continuation
deriving Repr

/-- A scanned text: its lexemes up to the end or the first fault. -/
structure Scan where
  source : Source
  lexemes : Array Lexeme
  fault : Option ScanFault
  brackets : List Bracket

/-- Words that are never identifiers. -/
def keywords : List String :=
  ["False", "None", "True", "and", "as", "assert", "async", "await", "break", "class", "continue",
    "def", "del", "elif", "else", "except", "finally", "for", "from", "global", "if", "import",
    "in", "is", "lambda", "nonlocal", "not", "or", "pass", "raise", "return", "try", "while",
    "with", "yield"]

/-- Identifiers that some statements read as words of their own. -/
def softKeywords : List String := ["_", "case", "match"]

end SourceUnit.Grammar
