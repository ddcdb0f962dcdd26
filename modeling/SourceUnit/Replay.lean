import SourceUnit.Backend

/-! Backends that are not our own: one that replays a fixed result, and any that is plugged in. A maker
is the choice between them and the backend that parses. -/
namespace SourceUnit

/-- What to replay: diagnostics to report, and then a failure or a result. -/
structure Replay where
  tokens : List RawToken := []
  comments : List Comment := []
  root : Root := .absent
  diagnostics : List Diagnostic := []
  fails : Bool := false

namespace Replay

/-- Reports the diagnostics up to the first that stops the parse. -/
def run (s : Replay) (policy : Policy) (sink : Option Sink) : Outcome :=
  let stopped (sink : Option Sink) (f : Failure) : Outcome :=
    ⟨sink, .error { f with comments := s.comments, tokens := s.tokens }⟩
  match policy.reportAll sink s.diagnostics with
  | (sink, some failure) => stopped sink failure
  | (sink, none) =>
    if s.fails then stopped sink { message := "scripted failure" }
    else ⟨sink, .ok ⟨s.root, s.comments, s.tokens⟩⟩

end Replay

/-- A backend that is plugged in: how it is shown, and what it makes of a buffer while it reports to a
sink under a policy. -/
structure Plugin where
  shown : String
  run : Policy → Option Sink → Buffer → Except Error Outcome

/-- What a registry holds for a release. -/
inductive Maker where
  /-- Parses by the grammar of a release. -/
  | grammar (release : Release)
  /-- Replays a result; the number tells several of them apart. -/
  | replay (number : Nat) (script : Replay)
  | plugin (p : Plugin)

namespace Maker

/-- Runs the backend it makes. -/
def run (m : Maker) (policy : Policy) (engine : Engine) (sink : Option Sink) (buffer : Buffer) :
    Except Error Outcome :=
  match m with
  | .grammar release => Backend.run ⟨release, policy⟩ engine sink buffer
  | .replay _ script => .ok (script.run policy sink)
  | .plugin p => p.run policy sink buffer

def describe : Maker → Except Error String
  | .grammar release => Backend.describe { release }
  | .replay _ _ => .ok "FakeBackend"
  | .plugin p => .ok p.shown

end Maker

end SourceUnit
