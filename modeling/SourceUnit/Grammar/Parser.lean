import SourceUnit.Grammar.Scanner
import Std.Data.HashMap

/-! The parsing monad. A parser works on scanned lexemes, which it fetches one by one: how far it
has fetched decides where an unspecific error is placed. It either succeeds, fails (the next
alternative is tried), or raises a fault that ends the parse. Results of some rules are remembered
per position. -/
namespace SourceUnit.Grammar

/-- Deepest nesting of rules. -/
def maxRuleDepth : Nat := 6000

/-- What ends a parse for good. -/
inductive Abort where
  | told (fault : SyntaxFault)
  /-- Rules are nested too deeply. -/
  | tooDeep

/-- What a parser may look at. -/
structure Env where
  scan : Scan
  /-- The minor number of the language release. -/
  release : Int
  /-- Whether the rules that explain errors take part. -/
  explaining : Bool := false
  depth : Nat := 0
  /-- Set when the text is a replacement field of a string. -/
  origin : Option Scanner.Origin := none

/-- Rules whose results are trees and which are reached recursively. -/
inductive TreeRule where
  | expression | starExpression | disjunction | conjunction | inversion
  | bitwiseOr | bitwiseXor | bitwiseAnd | shift | sum | term | factor | awaitPrimary | primary
  | strings | starTarget | targetWithStarAtom | singleTarget | tPrimary | delTarget
  | closedPattern | starPattern | attr | dottedName | simpleStmt | elifStmt
  | invalidNamedExpression | invalidAnnTarget
deriving DecidableEq, Repr

/-- The arguments of a call. -/
structure CallArgs where
  args : List Tree
  keywords : List Tree
  place : Place

/-- A remembered result and the position after it. -/
structure Remembered (α : Type) where
  result : Option α
  mark : Nat

/-- What a parser remembers. -/
structure Memory where
  /-- Position in the lexemes. -/
  mark : Nat := 0
  /-- Number of lexemes fetched. -/
  fetched : Nat := 0
  trees : Std.HashMap (Nat × Nat) (Remembered Tree) := {}
  blocks : Std.HashMap Nat (Remembered (List Tree)) := {}
  calls : Std.HashMap Nat (Remembered CallArgs) := {}
  /-- Doubts in the order in which they arose, the last one first. -/
  doubts : List Warning := []

/-- Outcome of a parser. A final failure rules out the remaining alternatives of its rule. -/
inductive Outcome (α : Type) where
  | ok (value : α) (mem : Memory)
  | fail (final : Bool) (mem : Memory)
  | abort (why : Abort) (mem : Memory)

/-- A parser. -/
def P (α : Type) : Type := Env → Memory → Outcome α

namespace P

instance : Monad P where
  pure a := fun _ m => .ok a m
  bind p f := fun e m =>
    match p e m with
    | .ok a m => f a e m
    | .fail final m => .fail final m
    | .abort why m => .abort why m

/-- Fails; the next alternative is tried. -/
def fail {α : Type} : P α := fun _ m => .fail false m

/-- Fails the whole rule. -/
def reject {α : Type} : P α := fun _ m => .fail true m

def getEnv : P Env := fun e m => .ok e m

/-- Records a doubt about the text. -/
def doubt (w : Warning) : P Unit := fun _ m => .ok () { m with doubts := w :: m.doubts }

end P

/-- The reading position after the lexemes fetched so far. -/
def Env.cursor (e : Env) (m : Memory) : Cursor :=
  match e.scan.lexemes[m.fetched - 1]? with
  | some l => l.after
  | none => {}

/-- Number of characters that start before a byte offset of the text between two indices; an offset
past its end counts one more. -/
def charsBefore (s : Source) (start stop : Nat) (offset : Int) : Int :=
  let base := s.offset start
  let len : Int := (s.offset stop : Int) - base
  let offset := if len + 1 < offset then len + 1 else offset
  let inside := (List.range (stop - start)).countP fun i =>
    decide (((s.offset (start + i) : Int) - base) < offset)
  if len < offset then (inside : Int) + 1 else inside

/-- The stretch of text against which columns of a line are counted. -/
def errorStretch (e : Env) (m : Memory) (line : Nat) : Nat × Nat :=
  let s := e.scan.source
  let c := e.cursor m
  if c.line ≤ line && c.buf < c.inp then (c.buf, c.inp)
  else
    let rec go : Nat → Nat → Nat
      | 0, i => i
      | n + 1, i =>
        let next := s.lineEnd i
        if next ≤ c.inp && i < next then go n next else i
    let start := go (line - 1) 0
    (start, s.skipWhile (· != '\n') start)

/-- Raises a fault over a range of byte columns counted from one; the end may lie at the reading
position. -/
def raiseOver {α : Type} (cls : FaultClass) (line : Nat) (col : Int)
    (stop : Option (Nat × Int)) (message : String) : P α := fun e m =>
  let c := e.cursor m
  let (endLine, endCol) := stop.getD (c.line, e.scan.source.col c.lineStart c.cur)
  match e.origin with
  | some o =>
    .abort (.told
      { cls
        message := "f-string: " ++ message
        line := some line
        offset := some (col - o.col)
        endLine := some endLine
        endOffset := some (endCol - o.col) }) m
  | none =>
    let (start, stop) := errorStretch e m line
    let toChars := charsBefore e.scan.source start stop
    .abort (.told
      { cls
        message
        line := some line
        offset := some (toChars col)
        endLine := some endLine
        endOffset := some (if 0 < endCol then toChars endCol else endCol) }) m

/-- Raises a fault over a place. -/
def raiseAt {α : Type} (p : Place) (message : String) : P α :=
  raiseOver .general p.line (p.col + 1) (some (p.endLine, p.endCol + 1)) message

/-- Raises a fault from the start of one place to the end of another. -/
def raiseRange {α : Type} (a b : Place) (message : String) : P α := raiseAt (a.through b) message

/-- Raises a fault from the start of a place to the reading position. -/
def raiseFrom {α : Type} (p : Place) (message : String) : P α :=
  raiseOver .general p.line (p.col + 1) none message

/-- Raises a fault of a class at the last lexeme fetched. -/
def raiseClass {α : Type} (cls : FaultClass) (message : String) : P α := fun e m =>
  match e.scan.lexemes[m.fetched - 1]? with
  | none => raiseOver cls 0 0 (some (0, -1)) message e m
  | some l =>
    let c := l.after
    let p := l.place
    let col := if p.col = -1 then e.scan.source.col c.lineStart c.cur else p.col + 1
    let endCol := if p.endCol = -1 then -1 else p.endCol + 1
    raiseOver cls p.line col (some (p.endLine, endCol)) message e m

/-- Raises a fault at the last lexeme fetched. -/
def raiseHere {α : Type} (message : String) : P α := raiseClass .general message

/-- Raises an indentation fault at the last lexeme fetched. -/
def raiseIndentation {α : Type} (message : String) : P α := raiseClass .indentation message

/-- Raises the fault that an unclosed bracket is. -/
def raiseUnclosed {α : Type} : P α := fun e m =>
  match e.scan.brackets with
  | b :: _ =>
    raiseOver .general b.line (b.col + 1) (some (b.line, 0)) s!"'{b.opening}' was never closed" e m
  | [] => raiseHere "unexpected EOF while parsing" e m

/-- Raises what made the scanner break off. -/
def raiseScanFault {α : Type} (f : ScanFault) : P α := fun e m =>
  let c := e.cursor m
  let here (cls : FaultClass) (col : Int) (message : String) : Outcome α :=
    raiseOver cls c.line (col + 1) (some (c.line, 0)) message e m
  match f with
  | .told fault => .abort (.told fault) m
  | .ended =>
    if e.scan.brackets.isEmpty then raiseHere "unexpected EOF while parsing" e m
    else raiseUnclosed e m
  | .dedent => raiseIndentation "unindent does not match any outer indentation level" e m
  | .tabs => here .tabs 0 "inconsistent use of tabs and spaces in indentation"
  | .tooDeep => here .indentation 0 "too many levels of indentation"
  | .continuation =>
    let col := e.scan.source.col c.buf c.cur - 1
    here .general (if 0 ≤ col then col else 0)
      "unexpected character after line continuation character"

/-- Makes sure that the lexeme at the current position has been fetched, and returns it. -/
def peek : P Lexeme := fun e m =>
  match e.scan.lexemes[m.mark]? with
  | none => .fail false m
  | some l =>
    if m.mark < m.fetched then .ok l m
    else
      let m := { m with fetched := m.mark + 1, doubts := l.doubts.reverse ++ m.doubts }
      match l.kind, e.scan.fault with
      | .bad, some f => raiseScanFault f e m
      | _, _ => .ok l m

/-- Takes the next lexeme if it passes the test. -/
def takeIf (test : Lexeme → Bool) : P Lexeme := fun e m =>
  match peek e m with
  | .ok l m => if test l then .ok l { m with mark := m.mark + 1 } else .fail false m
  | .fail b m => .fail b m
  | .abort why m => .abort why m

/-- Takes a keyword or operator of the given spelling. -/
def expect (spelling : String) : P Lexeme :=
  takeIf fun l => (l.kind == .keyword || l.kind == .op) && l.text == spelling

/-- Takes a keyword or operator, or raises a fault that asks for it. -/
def force (spelling : String) : P Lexeme := fun e m =>
  match expect spelling e m with
  | .fail _ m =>
    match peek e m with
    | .ok l m => raiseAt l.place s!"expected '{spelling}'" e m
    | .fail b m => .fail b m
    | .abort why m => .abort why m
  | r => r

/-- Takes a lexeme of a kind. -/
def ofKind (k : LexemeKind) : P Lexeme := takeIf fun l => l.kind == k

def newline : P Lexeme := ofKind .newline

def indentMark : P Lexeme := ofKind .indent

def dedentMark : P Lexeme := ofKind .dedent

/-- Takes an identifier. -/
def nameLexeme : P Lexeme := ofKind .name

/-- Takes an identifier as a name to be read. -/
def name : P Tree := do
  let l ← nameLexeme
  return .nameAt l.text l.place

/-- Takes an identifier that some statement reads as a word of its own. -/
def softWord (spelling : String) : P Lexeme :=
  takeIf fun l => l.kind == .name && l.text == spelling

/-- Takes any word that is only sometimes an identifier. -/
def anySoftWord : P Lexeme := takeIf fun l => l.kind == .name && softKeywords.contains l.text

/-- Enters a rule: counts its nesting, and turns a final failure into a plain one. The body is
delayed so that building a rule does not build what it refers to. -/
def rule {α : Type} (body : Unit → P α) : P α := fun e m =>
  if maxRuleDepth ≤ e.depth then .abort .tooDeep m
  else
    match body () { e with depth := e.depth + 1 } m with
    | .fail _ m => .fail false m
    | r => r

/-- Puts a parser that failed back to a position. The position is handed over on its own so that
nothing else of the old memory has to be kept. -/
@[noinline]
def Outcome.backOnFail {α : Type} (mark : Nat) : Outcome α → Outcome α
  | .fail final m => .fail final { m with mark }
  | r => r

/-- Puts a parser back to a position, however it ended. -/
@[noinline]
def Outcome.back {α : Type} (mark : Nat) : Outcome α → Outcome α
  | .ok a m => .ok a { m with mark }
  | .fail final m => .fail final { m with mark }
  | r => r

/-- Tries alternatives in order, each from the same position. -/
def choice {α : Type} : List (P α) → P α
  | [] => P.fail
  | p :: ps => fun e m =>
    match Outcome.backOnFail m.mark (p e m) with
    | .fail false m => choice ps e m
    | r => r

/-- An alternative that only takes part when errors are being explained. -/
def explained {α : Type} (p : P α) : P α := fun e m =>
  if e.explaining then p e m else .fail false m

/-- Runs a parser with the explaining rules switched off. -/
def unexplained {α : Type} (p : P α) : P α := fun e m => p { e with explaining := false } m

/-- From here on the rule is committed: if the rest fails, so does the rule. -/
def commit {α : Type} (p : P α) : P α := fun e m =>
  match p e m with
  | .fail _ m => .fail true m
  | r => r

/-- Optional part. -/
def optional {α : Type} (p : P α) : P (Option α) := fun e m =>
  match Outcome.backOnFail m.mark (p e m) with
  | .ok a m => .ok (some a) m
  | .fail _ m => .ok none m
  | .abort why m => .abort why m

/-- Succeeds without moving if the parser would succeed. -/
def ahead {α : Type} (p : P α) : P Unit := fun e m =>
  match Outcome.back m.mark (p e m) with
  | .ok _ m => .ok () m
  | .fail _ m => .fail false m
  | .abort why m => .abort why m

/-- Succeeds without moving if the parser would fail. -/
def notAhead {α : Type} (p : P α) : P Unit := fun e m =>
  match Outcome.back m.mark (p e m) with
  | .ok _ m => .fail false m
  | .fail _ m => .ok () m
  | .abort why m => .abort why m

/-- Repeats a parser; the bound is the number of lexemes. -/
def repeated {α : Type} (p : P α) : (fuel : Nat) → List α → P (List α)
  | 0, acc => pure acc.reverse
  | fuel + 1, acc => fun e m =>
    match Outcome.backOnFail m.mark (p e m) with
    | .ok a m => repeated p fuel (a :: acc) e m
    | .fail _ m => .ok acc.reverse m
    | .abort why m => .abort why m

/-- Zero or more. -/
def many {α : Type} (p : P α) : P (List α) :=
  rule fun _ e m => repeated p (e.scan.lexemes.size + 1) [] e m

/-- One or more. -/
def many1 {α : Type} (p : P α) : P (List α) := rule fun _ e m =>
  match repeated p (e.scan.lexemes.size + 1) [] e m with
  | .ok [] m => .fail false m
  | r => r

/-- One or more, with a separator between them that is dropped. -/
def sepBy1 {α β : Type} (p : P α) (sep : P β) : P (List α) := rule fun _ => do
  let first ← p
  let rest ← many (do let _ ← sep; p)
  return first :: rest

/-- A group of alternatives inside a rule. -/
def group {α : Type} (alternatives : List (P α)) : P α := rule fun _ => choice alternatives

/-- The last lexeme before a position that is not a line break, block mark or the end. -/
def lastSolid (ls : Array Lexeme) : Nat → Option Lexeme
  | 0 => none
  | i + 1 =>
    match ls[i]? with
    | some l =>
      match l.kind with
      | .newline | .indent | .dedent | .stop => if i = 0 then some l else lastSolid ls i
      | _ => some l
    | none => lastSolid ls i

/-- Gives a parser's result the place from its first lexeme to its last. -/
def spanning {α : Type} (p : P (Place → P α)) : P α := fun e m =>
  match peek e m with
  | .ok first m =>
    match p e m with
    | .ok f m =>
      let last := (lastSolid e.scan.lexemes m.mark).getD first
      f (first.place.through last.place) e m
    | .fail b m => .fail b m
    | .abort why m => .abort why m
  | .fail b m => .fail b m
  | .abort why m => .abort why m

/-- Gives a parser's result the place from its first lexeme to its last. -/
def placed {α : Type} (p : P (Place → α)) : P α :=
  spanning (do let f ← p; return fun place => pure (f place))

/-- Refuses a construct in releases older than the one that brought it. -/
def since {α : Type} (minor : Nat) (what : String) (value : α) : P α := do
  let e ← P.getEnv
  if e.release < minor then
    raiseHere s!"{what} only supported in Python 3.{minor} and greater"
  else return value

/-- The rules that other rules reach recursively. -/
structure Rules where
  tree : TreeRule → P Tree
  block : P (List Tree)
  arguments : P CallArgs

/-- Runs a rule unless its result at this position is remembered. -/
def remembering {α : Type} (look : Memory → Option (Remembered α))
    (keep : Memory → Remembered α → Memory) (body : P α) : P α := fun e m =>
  match peek e m with
  | .abort why m => .abort why m
  | .fail b m => .fail b m
  | .ok _ m =>
    match look m with
    | some r =>
      match r.result with
      | some a => .ok a { m with mark := r.mark }
      | none => .fail false { m with mark := r.mark }
    | none =>
      match Outcome.backOnFail m.mark (body e m) with
      | .ok a m => .ok a (keep m ⟨some a, m.mark⟩)
      | .fail _ m => .fail false (keep m ⟨none, m.mark⟩)
      | .abort why m => .abort why m

/-- Runs a tree rule with its results remembered. -/
def rememberTree (r : TreeRule) (body : P Tree) : P Tree := fun e m =>
  let key := (r.ctorIdx, m.mark)
  remembering (·.trees[key]?) (fun mem v => { mem with trees := mem.trees.insert key v }) body e m

/-- Grows a left-recursive rule: its remembered result starts as a failure and is replaced as long
as the rule reaches further. -/
def grow (key : Nat × Nat) (body : P Tree) (start : Nat) :
    (fuel : Nat) → Option Tree → (reached : Nat) → P Tree
  | 0, best, reached => fun _ m =>
    match best with
    | some t => .ok t { m with mark := reached }
    | none => .fail false { m with mark := start }
  | fuel + 1, best, reached => fun e m =>
    let m := { m with trees := m.trees.insert key ⟨best, reached⟩, mark := start }
    let stop (m : Memory) : Outcome Tree :=
      match best with
      | some t => .ok t { m with mark := reached }
      | none => .fail false { m with mark := start }
    match body e m with
    | .abort why m => .abort why m
    | .fail _ m => stop m
    | .ok t m' => if m'.mark ≤ reached then stop m' else grow key body start fuel (some t) m'.mark e m'

/-- Runs a left-recursive tree rule. -/
def growTree (r : TreeRule) (body : P Tree) : P Tree := fun e m =>
  let key := (r.ctorIdx, m.mark)
  match peek e m with
  | .abort why m => .abort why m
  | .fail b m => .fail b m
  | .ok _ m =>
    match m.trees[key]? with
    | some r =>
      match r.result with
      | some t => .ok t { m with mark := r.mark }
      | none => .fail false { m with mark := r.mark }
    | none => grow key (rule fun _ => body) m.mark (e.scan.lexemes.size + 2) none m.mark e m

end SourceUnit.Grammar
