import SourceUnit.Buffer
import SourceUnit.Engine
import SourceUnit.Policy
import SourceUnit.Release.Parse

/-! A backend lexes and parses a buffer for one release, and reports what it finds through a
policy. -/
namespace SourceUnit

/-- A value unless it is missing or zero. -/
def nonzero : Option Int → Option Int
  | some 0 => none
  | v => v

/-- The diagnostic of a syntax fault. Missing numbers count as one, and a range never ends before it
starts on the same line. -/
def SyntaxFault.diagnostic (f : SyntaxFault) : Diagnostic :=
  let line := (nonzero f.line).getD 1
  let startCol := max ((nonzero f.offset).getD 1 - 1) 0
  let endLine := (nonzero f.endLine).getD line
  let endCol := ((nonzero f.endOffset).getD ((nonzero f.offset).getD 1)) - 1
  let endCol := if endLine = line then max endCol startCol else endCol
  { level := .error
    message := f.message
    location := some ⟨line, startCol, endLine, max endCol 0⟩
    reason := f.cls.name }

def ParseFault.diagnostic : ParseFault → Diagnostic
  | .syntactic f => f.diagnostic
  | .refused message => { level := .error, message, reason := "ValueError" }

/-- A warning spans its line. -/
def Warning.diagnostic (b : Buffer) (w : Warning) : Diagnostic :=
  let line := (nonzero w.line).getD 1
  let text := match b.line line with
    | .ok (some s) => s
    | _ => []
  { level := .warning
    message := w.message
    location := some ⟨line, 0, line, text.length⟩
    reason := w.category }

/-- The diagnostic of a lexical fault: the first argument is the message, the second the location if
it is a tuple. A place is two whole numbers; any other pair names none. -/
def LexFault.diagnostic : LexFault → Except Error Diagnostic
  | .syntactic f => .ok f.diagnostic
  | .token args =>
    let message := match args with
      | [] => ""
      | v :: _ => v.plain
    let located (location : Option Span) : Diagnostic :=
      { level := .error, message, location, reason := "TokenError" }
    match args with
    | _ :: .tuple [.int line, .int col] :: _ => .ok (located (some (.point line col)))
    | _ :: .tuple [_, _] :: _ => .ok (located none)
    | _ :: .tuple _ :: _ => .error .badLocation
    | _ => .ok (located none)

/-- What a backend found. -/
structure Findings where
  root : Root
  comments : List Comment
  tokens : List RawToken

/-- A run of a backend: what reached the sink, and what came out. -/
structure Outcome where
  sink : Option Sink
  result : Except Failure Findings

structure Backend where
  release : Release
  policy : Policy := {}

namespace Backend

/-- Whether a token is shown. Those that mark the end of the text or of a block stand past the last
real line. -/
def isShown (t : RawToken) : Bool := t.kind ≠ TokenKind.endMarker && t.kind ≠ TokenKind.dedent

/-- The root of a module that has statements. -/
def rootOf : Option Module → Except Error Root
  | none => .ok .absent
  | some m =>
    match m.isEmpty with
    | none => .error .noBody
    | some true => .ok .absent
    | some false => .ok (.node m.root)

/-- Reports the parser's doubts and its fault, if it has one; a fault always stops the parse. -/
def judge (b : Backend) (buffer : Buffer) (sink : Option Sink) (p : Parsing) :
    Except Error (Option Sink × Except Failure Root) :=
  match b.policy.reportAll sink (p.warnings.map (·.diagnostic buffer)) with
  | (sink, some failure) => .ok (sink, .error failure)
  | (sink, none) =>
    match p.result with
    | .error fault =>
      let d := fault.diagnostic
      match b.policy.report sink d with
      | (sink, some failure) => .ok (sink, .error failure)
      | (sink, none) => .ok (sink, .error ⟨d.message, some d, [], []⟩)
    | .ok m =>
      match rootOf m with
      | .error e => .error e
      | .ok root => .ok (sink, .ok root)

/-- Reports a fault of the lexer after a parse that succeeded. -/
def judgeLexing (b : Backend) (sink : Option Sink) (fault : Option LexFault) :
    Except Error (Option Sink × Option Failure) :=
  match fault with
  | none => .ok (sink, none)
  | some f =>
    match f.diagnostic with
    | .error e => .error e
    | .ok d => .ok (b.policy.report sink d)

/-- Lexes and parses a buffer. Comments and tokens are kept however the parse ends. -/
def run (b : Backend) (engine : Engine) (sink : Option Sink) (buffer : Buffer) :
    Except Error Outcome := do
  let source ← buffer.source
  let lexing := engine.lex source
  let tokens := lexing.tokens.filter isShown
  let comments := tokens.filterMap (·.comment?)
  let parsing ← engine.parse buffer.name b.release source
  let stopped (sink : Option Sink) (f : Failure) : Outcome :=
    ⟨sink, .error { f with comments, tokens }⟩
  match ← b.judge buffer sink parsing with
  | (sink, .error failure) => return stopped sink failure
  | (sink, .ok root) =>
    match ← b.judgeLexing sink lexing.fault with
    | (sink, some failure) => return stopped sink failure
    | (sink, none) => return ⟨sink, .ok ⟨root, comments, tokens⟩⟩

def describe (b : Backend) : Except Error String :=
  b.release.write.map fun release => "PythonBackend(version=" ++ release ++ ")"

end Backend

end SourceUnit
