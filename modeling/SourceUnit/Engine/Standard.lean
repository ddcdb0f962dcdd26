import SourceUnit.Engine
import SourceUnit.Grammar.File
import SourceUnit.Lexer
import SourceUnit.Node.Numbering

/-! The engine that knows the language: the lexer for display and the parser of the grammar. -/
namespace SourceUnit.Engine

/-- The newest release of the grammar; it also stands in for a minor number below zero. -/
def newestMinor : Int := 11

/-- The deepest tree that a parse hands over. -/
def maxTreeDepth : Nat := 2960

/-- Parses a text. A name or text that holds a null character is refused before anything is read. -/
def parseText (name : String) (release : Release) (source : List Char) : Except Error Parsing :=
  let refused (message : String) : Except Error Parsing := .ok ⟨[], .error (.refused message)⟩
  if release.major ≠ 3 then .error (.foreignMajor release.major)
  else if name.toList.contains '\x00' then refused "embedded null character"
  else if release.minor < -0x80000000 ∨ 0x80000000 ≤ release.minor then
    .error (.minorOutOfRange release.minor)
  else if source.contains '\x00' then refused "source code string cannot contain null bytes"
  else
    let minor := if release.minor < 0 then newestMinor else release.minor
    let run := Grammar.parseFile source minor
    match run.result with
    | .ok tree =>
      if maxTreeDepth < tree.depth then .error .treeTooDeep
      else .ok ⟨run.doubts, .ok (some ⟨Node.ofTree tree, some tree.children.isEmpty⟩)⟩
    | .error .tooDeep => .error .tooDeep
    | .error (.told fault) => .ok ⟨run.doubts, .error (.syntactic fault)⟩

def standard : Engine where
  lex := Lexer.lex
  parse := parseText

end SourceUnit.Engine
