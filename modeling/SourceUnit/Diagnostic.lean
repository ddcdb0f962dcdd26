import SourceUnit.Release.Parse
import SourceUnit.Span

/-! What a parse reports. -/
namespace SourceUnit

inductive Severity where
  | warning
  | error
  | fatal
deriving DecidableEq, Repr

namespace Severity

def name : Severity → String
  | .warning => "warning"
  | .error => "error"
  | .fatal => "fatal"

def ofName? : String → Option Severity
  | "warning" => some .warning
  | "error" => some .error
  | "fatal" => some .fatal
  | _ => none

/-- Everything above a warning. -/
def isError (s : Severity) : Bool := s != .warning

end Severity

structure Diagnostic where
  level : Severity
  message : String
  location : Option Span := none
  /-- The class of the fault or warning behind it. -/
  reason : String := "syntax"
deriving DecidableEq, Repr

namespace Diagnostic

def isError (d : Diagnostic) : Bool := d.level.isError

/-- The same diagnostic as a fatal one. -/
def escalate (d : Diagnostic) : Diagnostic := { d with level := .fatal }

/-- The text of a diagnostic, unless a number of its place is too long to be written out. -/
def write (d : Diagnostic) : Except Error String :=
  let said := d.level.name ++ ": " ++ d.message
  match d.location with
  | none => .ok said
  | some s =>
    if Release.isShort s.startLine && Release.isShort s.startCol then
      .ok (toString s.startLine ++ ":" ++ toString s.startCol ++ ": " ++ said)
    else .error .numberTooLong

end Diagnostic

end SourceUnit
