import SourceUnit.Value

/-! The problems a caller can be told about: a kind from a small hierarchy, a message, and details
in order. -/
namespace SourceUnit

inductive ProblemKind where
  | general
  | validation
  | invalidConfiguration
  | unknownRelease
  | sourceReading
  | fileNotFound
  | parsing
  | encoding
  | syntaxFailure
deriving DecidableEq, Repr

namespace ProblemKind

/-- The kind and the ever wider kinds it belongs to. -/
def ancestry : ProblemKind → List ProblemKind
  | .general => [.general]
  | .validation => [.validation, .general]
  | .invalidConfiguration => [.invalidConfiguration, .validation, .general]
  | .unknownRelease => [.unknownRelease, .invalidConfiguration, .validation, .general]
  | .sourceReading => [.sourceReading, .general]
  | .fileNotFound => [.fileNotFound, .sourceReading, .general]
  | .parsing => [.parsing, .general]
  | .encoding => [.encoding, .parsing, .general]
  | .syntaxFailure => [.syntaxFailure, .parsing, .general]

end ProblemKind

structure Problem where
  kind : ProblemKind
  message : String
  details : List (Value × Value) := []

namespace Problem

/-- A file that is not there. -/
def noSuchFile (path : String) : Problem where
  kind := .fileNotFound
  message := "No such file or directory: " ++ path
  details := [(.string "path", .string path)]

/-- The message, followed by the details if there are any. A missing file's message says it all. -/
def text (p : Problem) : String :=
  if p.details.isEmpty || p.kind == .fileNotFound then p.message
  else p.message ++ " (details: " ++ (Value.dict p.details).quoted ++ ")"

end Problem

end SourceUnit
