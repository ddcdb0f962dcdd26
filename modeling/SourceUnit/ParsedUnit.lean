import SourceUnit.Construction
import SourceUnit.Digest
import SourceUnit.Files
import SourceUnit.Registry
import SourceUnit.SyntaxTree.Segment

/-! A source unit: a text and a release go in, and a tree, tokens, comments and diagnostics come
out, with views of its lines on top. A syntax error never keeps a unit from being built. -/
namespace SourceUnit

structure ParsedUnit where
  settings : Settings
  release : Release
  /-- The source exactly as given. -/
  raw : RawSource
  path : Option String
  buffer : Buffer
  /-- Why the source is no text, if it is none. -/
  encodingError : Option Error := none
  tree : Option SyntaxTree := none
  comments : List Comment := []
  tokens : List Token := []
  diagnostics : List Diagnostic := []

namespace ParsedUnit

def filePath (u : ParsedUnit) : String := u.buffer.name

/-- No encoding error, and nothing above a warning was reported. -/
def validSyntax (u : ParsedUnit) : Bool :=
  u.encodingError.isNone && !u.diagnostics.any (·.isError)

def blank (u : ParsedUnit) : Bool := u.tree.isNone

/-- The bytes of a source as given. -/
def rawBytes : RawSource → Except Error (List UInt8)
  | .bytes bs => .ok bs
  | .text s =>
    match Utf8.encodeAny s with
    | some bs => .ok bs
    | none => .error .unwritable
  | .other => .error .notText

/-- SHA-1 of the source as given. -/
def checksum (u : ParsedUnit) : Except Error String :=
  (rawBytes u.raw).map fun bs => (Digest.sha1 bs).text

/-- The lines before the first one, at or after an index, that is the end marker. -/
def keepFrom (marker : List Char) (last : Int) : (index : Nat) → List (List Char) → List (List Char)
  | _, [] => []
  | i, l :: ls => if last ≤ i ∧ l = marker then [] else l :: keepFrom marker last (i + 1) ls

/-- The line that the last token starts on, zero if there are none. -/
def lastTokenLine (tokens : List Token) : Int :=
  match tokens.getLast? with
  | some t => t.span.startLine
  | none => 0

/-- The lines of the source up to an end marker. The marker counts only past the line of the last
token. -/
def lines (u : ParsedUnit) : List (List Char) :=
  match u.encodingError, u.buffer.lines with
  | none, .ok ls => keepFrom u.settings.endMarker.toList (lastTokenLine u.tokens) 0 ls
  | _, _ => []

/-- Whether a comment starts on a line. -/
def commented (u : ParsedUnit) (line : Int) : Bool :=
  u.comments.any fun c => c.span.startLine == line

/-- The comments that start at or before a line. -/
def commentsBefore (u : ParsedUnit) (line : Int) : List Comment :=
  u.comments.filter fun c => c.span.startLine ≤ line

/-- The line at an index, if there is one. -/
def lineAt (u : ParsedUnit) (index : Int) : Option (List Char) :=
  if 0 ≤ index then u.lines[index.toNat]? else none

/-- The line at an index; below zero it counts from the end. -/
def get (u : ParsedUnit) (index : Int) : Option (List Char) :=
  (Segment.index? u.lines.length index).bind (u.lines[·]?)

def startsWith (u : ParsedUnit) (start : List Char) : Bool :=
  match u.get 0 with
  | some l => start.isPrefixOf l
  | none => false

/-- The line above a line. -/
def precedingLine (u : ParsedUnit) (line : Int) : Option (List Char) := u.lineAt (line - 2)

/-- The line below a line. -/
def followingLine (u : ParsedUnit) (line : Int) : Option (List Char) := u.lineAt line

/-- How many characters of ASCII white space a line starts with. -/
def indentationOf (u : ParsedUnit) (line : Int) : Nat :=
  match u.lineAt (line - 1) with
  | some l => (l.takeWhile Text.isAsciiBlank).length
  | none => 0

/-- Comments by the node around them. -/
def commentsByNode (u : ParsedUnit) : Option (List (Node × List Comment)) :=
  u.tree.map fun t => (t.associate u.comments).1

def describe (u : ParsedUnit) : Except Error String :=
  u.release.write.map fun release =>
    "ProcessedSource(file=" ++ u.filePath ++ ", dialect=" ++ release ++ ", valid_syntax="
      ++ (if u.validSyntax then "True" else "False") ++ ")"

/-! ### Building -/

/-- A source that is no text. -/
def encodingEvent (u : ParsedUnit) (p : Problem) : Event where
  name := "source_encoding_error"
  level := .warning
  keys := [("path", .string u.filePath), ("error", .string p.text)]

/-- A parse that was stopped. -/
def failureEvent (u : ParsedUnit) (f : Failure) : Event where
  name := "syntax_failure_absorbed"
  level := .debug
  keys := [("path", .string u.filePath), ("error", .string f.message)]

/-- A unit that has been built. -/
def processedEvent (u : ParsedUnit) : Except Error Event :=
  u.release.write.map fun release =>
    { name := "source_processed"
      level := .debug
      keys := [("path", .string u.filePath), ("dialect", .string release),
        ("tokens", .int u.tokens.length), ("comments", .int u.comments.length),
        ("diagnostics", .int u.diagnostics.length), ("blank", .bool u.blank)] }

/-- The tree of a root. -/
def treeOf (buffer : Buffer) (backend : Made) : Root → Except Error (Option SyntaxTree)
  | .absent => .ok none
  | .node n => (SyntaxTree.ofBuffer buffer n).map fun t => some t.complete
  | .foreign typeName => backend.shown.bind fun shown => .error (.foreignRoot shown typeName)

/-- Takes over what a backend found. -/
def adopt (u : ParsedUnit) (backend : Made) (sink : Option Sink) (f : Findings) :
    Except Error ParsedUnit := do
  let tree ← treeOf u.buffer backend f.root
  let tokens ← f.tokens.mapM RawToken.toToken
  return { u with
    tree
    comments := f.comments
    tokens
    diagnostics := (sink.map (·.diagnostics)).getD [] }

/-- Runs a backend over the buffer. A parse that was stopped leaves no tree. -/
def parse (u : ParsedUnit) (maker : Maker) (engine : Engine) : Construction ParsedUnit := do
  let policy : Policy := ⟨u.settings.allErrorsFatal, u.settings.ignoreWarnings⟩
  let backend ← maker.make policy engine
  match ← backend.run (some {}) u.buffer with
  | ⟨sink, .ok findings⟩ => u.adopt backend sink findings
  | ⟨sink, .error failure⟩ =>
    .log (u.failureEvent failure)
    u.adopt backend sink ⟨.absent, failure.comments, failure.tokens⟩

/-- Keeps the error with the unit if it says that the source is no text. -/
def refuse (u : ParsedUnit) (e : Error) : Construction ParsedUnit :=
  match e.problem? with
  | none => { result := .error e }
  | some p =>
    let u := { u with encodingError := some e }
    { events := [u.encodingEvent p], result := .ok u }

/-- Takes the source in. One that is no text is kept from the maker. -/
def load (u : ParsedUnit) (maker : Maker) (engine : Engine) : Construction ParsedUnit :=
  match u.buffer.assign u.raw with
  | .ok b => parse { u with buffer := b.remember } maker engine
  | .error e => u.refuse e

def announce (u : ParsedUnit) : Construction ParsedUnit := do
  .log (← u.processedEvent)
  return u

/-- Builds a unit. The release is settled before the source is looked at, and has to be written out
in the log in the end. -/
def build (settings : Settings) (registry : Registry Maker) (engine : Engine)
    (release : Option Value) (path : Option String) (raw : RawSource) :
    Construction ParsedUnit := do
  let wanted := release.getD (.string settings.release)
  let maker ← registry.select wanted
  let release ← Release.parse wanted
  let name := match path with
    | some p => if p = "" then "(string)" else p
    | none => "(string)"
  let u ← load { settings, release, raw, path, buffer := { name } } maker engine
  u.announce

/-- Builds a unit of the bytes of a file. -/
def ofFile (files : Files) (settings : Settings) (registry : Registry Maker) (engine : Engine)
    (release : Option Value) (path : String) : Construction ParsedUnit := do
  let content ← files.read path
  build settings registry engine release (some path) (.bytes content)

end ParsedUnit

end SourceUnit
