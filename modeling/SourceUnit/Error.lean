import SourceUnit.Problem
import SourceUnit.Text.Utf8

/-! Everything that can go wrong in the library, by cause. -/
namespace SourceUnit

inductive Error where
  /-- Not the name of a release. -/
  | unknownRelease (value : Value)
  /-- A release that has no backend. -/
  | unregistered (value : Value) (supported : List Release)
  /-- A number with too many digits to be read or written. -/
  | numberTooLong
  /-- A buffer that was read before it was given a source. -/
  | unassigned (name : String)
  | undecodable (name : String) (fault : Utf8.Fault)
  /-- A text with a surrogate at an index. -/
  | unencodable (name : String) (position : Nat)
  /-- A text with a code point that has no bytes. -/
  | unwritable
  /-- A source that is neither text nor bytes. -/
  | notText
  /-- A token whose kind has no name. -/
  | unnamedTokenKind (code : Int)
  /-- The location of a lexical fault is a tuple but not a pair. -/
  | badLocation
  /-- The root of a parse has no list of statements. -/
  | noBody
  /-- A backend returned something that is not a syntax node. -/
  | foreignRoot (backend rootType : String)
  | noCommentConfig (path : String)
  | fileNotFound (path : String)
  | isDirectory (path : String)
  | notDirectory (path : String)
  /-- A path that holds a null character. -/
  | nullInPath
  /-- A node's position has no line number. -/
  | noLine
  | lineOutOfRange (index : Int)
  /-- A byte offset that splits a character. -/
  | splitCharacter
  | zeroStep
  /-- Something has no such attribute, or one that is no text where text is asked for. -/
  | noAttribute (name : String)
  /-- What an attribute should start with is no text. -/
  | startNotText
  /-- The grammar knows only releases of one major number. -/
  | foreignMajor (major : Int)
  /-- The minor number does not fit a machine word. -/
  | minorOutOfRange (minor : Int)
  /-- Source nested too deeply for the parser. -/
  | tooDeep
  /-- A syntax tree that is too deep to be handed over. -/
  | treeTooDeep

namespace Error

/-- The problem to tell the caller, for the causes that have one. -/
def problem? : Error → Option Problem
  | .unknownRelease v =>
    some { kind := .unknownRelease, message := "Unknown dialect version: " ++ v.quoted }
  | .unregistered v supported =>
    some
      { kind := .unknownRelease
        message := "Unknown dialect version: " ++ v.quoted
        details := [(.string "supported", .list (supported.map fun r => .string r.text))] }
  | .undecodable name fault =>
    some
      { kind := .encoding
        message := "invalid byte sequence in UTF-8: " ++ name
        details := [(.string "path", .string name), (.string "position", .int fault.position),
          (.string "reason", .string fault.reason.message)] }
  | .unencodable name position =>
    some
      { kind := .encoding
        message := "invalid character in UTF-8: " ++ name
        details := [(.string "path", .string name), (.string "position", .int position),
          (.string "reason", .string "surrogates not allowed")] }
  | .foreignRoot backend rootType =>
    some
      { kind := .invalidConfiguration
        message := "Parser backend returned a tree root that is not an ast node"
        details := [(.string "backend", .string backend), (.string "root_type", .string rootType)] }
  | .noCommentConfig path =>
    some
      { kind := .invalidConfiguration
        message := "No comment config factory configured"
        details := [(.string "path", .string path)] }
  | .fileNotFound path => some (.noSuchFile path)
  | _ => none

/-- The text to tell the caller, for the causes that have one. -/
def message? : Error → Option String
  | .unassigned name =>
    some ("Source buffer " ++ Quoted.string name ++ " has no source assigned")
  | e => e.problem?.map (·.text)

end Error

end SourceUnit
