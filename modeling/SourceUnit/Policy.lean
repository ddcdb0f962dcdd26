import SourceUnit.Diagnostic
import SourceUnit.Token

/-! Where diagnostics go. A sink collects them; a policy drops warnings, escalates, and stops the
parse at a fatal one. -/
namespace SourceUnit

/-- Diagnostics in the order they arrived. -/
structure Sink where
  diagnostics : List Diagnostic := []

namespace Sink

def push (s : Sink) (d : Diagnostic) : Sink := ⟨s.diagnostics ++ [d]⟩

def size (s : Sink) : Nat := s.diagnostics.length

def hasErrors (s : Sink) : Bool := s.diagnostics.any (·.isError)

def describe (s : Sink) : String := "DiagnosticSink(count=" ++ toString s.size ++ ")"

end Sink

/-- A parse that was stopped, with what it had found before. -/
structure Failure where
  message : String
  diagnostic : Option Diagnostic := none
  comments : List Comment := []
  tokens : List RawToken := []

structure Policy where
  /-- Every diagnostic is escalated to a fatal one. -/
  allFatal : Bool := false
  /-- Warnings are dropped. -/
  ignoreWarnings : Bool := false
deriving DecidableEq, Repr

namespace Policy

/-- What becomes of a diagnostic, if it is not dropped. -/
def filtered (p : Policy) (d : Diagnostic) : Option Diagnostic :=
  if p.ignoreWarnings && d.level == .warning then none
  else some (if p.allFatal then d.escalate else d)

/-- Reports a diagnostic to a sink, if someone listens. -/
def report (p : Policy) (sink : Option Sink) (d : Diagnostic) : Option Sink × Option Failure :=
  match p.filtered d with
  | none => (sink, none)
  | some d =>
    (sink.map (·.push d), if d.level = .fatal then some ⟨d.message, some d, [], []⟩ else none)

/-- Reports diagnostics in order up to the first that stops the parse. -/
def reportAll (p : Policy) : Option Sink → List Diagnostic → Option Sink × Option Failure
  | sink, [] => (sink, none)
  | sink, d :: ds =>
    match p.report sink d with
    | (sink, some failure) => (sink, some failure)
    | (sink, none) => p.reportAll sink ds

end Policy

end SourceUnit
