import SourceUnit.Engine
import SourceUnit.Lexer.Match
import SourceUnit.Text.Class.Blank
import SourceUnit.Text.Class.Identifier
import SourceUnit.Text.Line

/-! A lexer for display. It takes lines one by one and never refuses a character: what fits no rule
becomes a token of its own. It breaks off only where blocks or brackets or strings do not close. -/
namespace SourceUnit.Lexer

/-- A string that goes on over lines. -/
structure Pending where
  text : List Char
  line : Int
  col : Int
  quote : Char
  triple : Bool

structure State where
  /-- Number of the current line. -/
  line : Int := 0
  /-- Open brackets less closed ones. -/
  depth : Int := 0
  /-- Whether the last line ended in a backslash. -/
  joined : Bool := false
  pending : Option Pending := none
  /-- Whether a string that goes on has to end each line in a backslash. It stays set after a string
  that failed to, until a string ends. -/
  strict : Bool := false
  /-- Columns of the open blocks, the innermost first. -/
  blocks : List Nat := [0]
  /-- Tokens, the last one first. -/
  tokens : List RawToken := []

namespace State

def emit (st : State) (kind : Int) (text : List Char) (span : Span) : State :=
  { st with tokens := ⟨kind, String.ofList text, span⟩ :: st.tokens }

/-- Emits a token on the current line. -/
def emitHere (st : State) (kind : Int) (text : List Char) (col : Nat) : State :=
  st.emit kind text ⟨st.line, col, st.line, col + text.length⟩

end State

/-- The kind of a word: one that no name can start with counts as an operator. -/
def wordKind : List Char → Int
  | c :: _ => if Text.isNameStart c then TokenKind.name else TokenKind.op
  | [] => TokenKind.op

/-- Counts an opening or closing bracket. -/
def bracket (depth : Int) : List Char → Int
  | ['('] | ['['] | ['\x7b'] => depth + 1
  | [')'] | [']'] | ['\x7d'] => depth - 1
  | _ => depth

/-- Reads tokens to the end of the line. The text is what is left of it, at a column. -/
def inLine (st : State) : (fuel : Nat) → (col : Nat) → List Char → State
  | 0, _, _ => st
  | _ + 1, _, [] => st
  | fuel + 1, col, c :: rest =>
    let s := c :: rest
    let gap := (s.takeWhile isSpace).length
    let here := col + gap
    let s' := s.drop gap
    let go (st : State) (n : Nat) : State := inLine st fuel (here + n) (s'.drop n)
    match start s' with
    | .nothing => st
    | .joining => { st with joined := true }
    | .comment n => go (st.emitHere TokenKind.comment (s'.take n) here) n
    | .number n => go (st.emitHere TokenKind.number (s'.take n) here) n
    | .lineBreak =>
      let kind := if 0 < st.depth then TokenKind.blankLine else TokenKind.newline
      go (st.emitHere kind ['\n'] here) 1
    | .operator n =>
      let text := s'.take n
      go ({ st with depth := bracket st.depth text }.emitHere TokenKind.op text here) n
    | .word n => go (st.emitHere (wordKind s') (s'.take n) here) n
    | .string n =>
      let text := s'.take n
      if text.getLast? = some '\n' then
        let quote := (text.find? isQuote).getD '"'
        { st with pending := some ⟨s', st.line, here, quote, false⟩, strict := true }
      else go (st.emitHere TokenKind.string text here) n
    | .triple n =>
      let quote := (s'[n - 1]?).getD '"'
      match tripleRest quote (s'.drop n) with
      | some m => go (st.emitHere TokenKind.string (s'.take (n + m)) here) (n + m)
      | none => { st with pending := some ⟨s', st.line, here, quote, true⟩ }
    | .unknown => inLine (st.emitHere TokenKind.errorToken [c] col) fuel (col + 1) rest

/-- The column of the first character that is not white space, counting tabs to multiples of eight,
with the number of characters before it. A form feed starts over. -/
def indentation : (column size : Nat) → List Char → Nat × Nat
  | column, size, ' ' :: rest => indentation (column + 1) (size + 1) rest
  | column, size, '\t' :: rest => indentation ((column / 8 + 1) * 8) (size + 1) rest
  | _, size, '\x0c' :: rest => indentation 0 (size + 1) rest
  | column, size, _ => (column, size)

/-- Closes blocks down to a column. -/
def closeBlocks (st : State) (column size : Nat) : List Nat → State
  | [] => { st with blocks := [] }
  | b :: bs =>
    if column < b then
      closeBlocks (st.emitHere TokenKind.dedent [] size) column size bs
    else { st with blocks := b :: bs }

/-- The fault of a line that closes a block no block was opened at. -/
def badDedent (line : Int) (size : Nat) : SyntaxFault where
  cls := .indentation
  message := "unindent does not match any outer indentation level"
  line := some line
  offset := some size

/-- How the reading of a line ends. -/
inductive Step where
  | next (st : State)
  /-- The rest of the text is blank. -/
  | stop (st : State)
  | broken (st : State) (fault : LexFault)

/-- Reads a line that starts a statement, or is blank. -/
def freshLine (st : State) (line : List Char) : Step :=
  let (column, size) := indentation 0 0 line
  match line.drop size with
  | [] => .stop st
  | '#' :: rest =>
    let text := '#' :: rest.takeWhile (· != '\n')
    let st := st.emitHere TokenKind.comment text size
    .next (st.emitHere TokenKind.blankLine (line.drop (size + text.length)) (size + text.length))
  | '\n' :: _ => .next (st.emitHere TokenKind.blankLine (line.drop size) size)
  | s =>
    let st := if (st.blocks.head?.getD 0) < column then
        { st with blocks := column :: st.blocks }.emitHere TokenKind.indent (line.take size) 0
      else st
    if column < st.blocks.head?.getD 0 ∧ ¬ st.blocks.contains column then
      .broken st (.syntactic (badDedent st.line size))
    else .next (inLine (closeBlocks st column size st.blocks) (line.length + 1) size s)

/-- Reads a line that a string goes on in. -/
def pendingLine (st : State) (p : Pending) (line : List Char) : Step :=
  let stop := if p.triple then tripleRest p.quote line else singleRest p.quote line
  match stop with
  | some n =>
    let st := { st with pending := none, strict := false }
    let st := st.emit TokenKind.string (p.text ++ line.take n) ⟨p.line, p.col, st.line, n⟩
    .next (inLine st (line.length + 1) n (line.drop n))
  | none =>
    if st.strict && (line.reverse.take 2 != ['\n', '\\']) then
      let st := st.emit TokenKind.errorToken (p.text ++ line) ⟨p.line, p.col, st.line, line.length⟩
      .next { st with pending := none }
    else .next { st with pending := some { p with text := p.text ++ line } }

/-- Reads one line. -/
def step (st : State) (line : List Char) : Step :=
  let st := { st with line := st.line + 1 }
  match st.pending with
  | some p => pendingLine st p line
  | none =>
    if st.depth = 0 ∧ ¬ st.joined then freshLine st line
    else .next (inLine { st with joined := false } (line.length + 1) 0 line)

/-- A last line without a line break gets one for display, unless it is a comment. -/
def finalNewline (st : State) (lastLine : Option (List Char)) : State :=
  match lastLine with
  | some l =>
    let trimmed := l.dropWhile fun c => Text.isBlank c.toNat
    if l.getLast? = some '\n' ∨ trimmed.head? = some '#' then st
    else st.emit TokenKind.newline [] ⟨st.line - 1, l.length, st.line - 1, l.length + 1⟩
  | none => st

def finish (st : State) (fault : Option LexFault) : Lexing := ⟨st.tokens.reverse, fault⟩

/-- Closes what is open at the end. -/
def close (st : State) (lastLine : Option (List Char)) : Lexing :=
  let st := finalNewline st lastLine
  let ends := st.blocks.dropLast.map fun _ => (⟨TokenKind.dedent, "", .point st.line 0⟩ : RawToken)
  finish { st with tokens := ⟨TokenKind.endMarker, "", .point st.line 0⟩ :: ends ++ st.tokens } none

def tokenFault (message : String) (line col : Int) : LexFault :=
  .token [.string message, .tuple [.int line, .int col]]

/-- What the lexer says after the last line. -/
def ended (st : State) (lastLine : Option (List Char)) : Lexing :=
  let st := { st with line := st.line + 1 }
  match st.pending with
  | some p => finish st (some (tokenFault "EOF in multi-line string" p.line p.col))
  | none =>
    if st.depth = 0 ∧ ¬ st.joined then close st lastLine
    else finish st (some (tokenFault "EOF in multi-line statement" st.line 0))

/-- Reads lines in order; the line before the current one is kept. -/
def run (st : State) (lastLine : Option (List Char)) : List (List Char) → Lexing
  | [] => ended st lastLine
  | l :: ls =>
    match step st l with
    | .next st => run st (some l) ls
    | .stop st => close st lastLine
    | .broken st fault => finish st (some fault)

/-- Lexes a text. -/
def lex (source : List Char) : Lexing := run {} none (Text.chunks source)

end SourceUnit.Lexer
