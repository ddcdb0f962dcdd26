import SourceUnit.Log
import SourceUnit.Replay

/-! Building in steps. A step leaves behind the events that it logged and the makers that it called on,
whether it fails or not; the next step goes on from its result. -/
namespace SourceUnit

/-- Something worth a log line. -/
structure Event where
  name : String
  level : Log.Level
  keys : List (String × Value)

/-- What building led to: the events on the way, the makers that were called on to build a backend,
in order, and the result or what kept it from being built. -/
structure Construction (α : Type) where
  events : List Event := []
  built : List Maker := []
  result : Except Error α

namespace Construction

instance : Monad Construction where
  pure a := { result := .ok a }
  bind c next :=
    match c.result with
    | .ok a =>
      let rest := next a
      ⟨c.events ++ rest.events, c.built ++ rest.built, rest.result⟩
    | .error e => ⟨c.events, c.built, .error e⟩

instance : MonadLift (Except Error) Construction where
  monadLift result := { result }

def log (e : Event) : Construction Unit := { events := [e], result := .ok () }

section Bind

variable {α β : Type} {c : Construction α} {next : α → Construction β}

@[simp] theorem lift_ok_bind (a : α) (next : α → Construction β) :
    (liftM (.ok a : Except Error α) : Construction α) >>= next = next a := rfl

@[simp] theorem lift_error_bind (e : Error) (next : α → Construction β) :
    (liftM (.error e : Except Error α) : Construction α) >>= next = { result := .error e } := rfl

theorem bind_of_ok {a : α} (h : c.result = .ok a) : c >>= next =
    ⟨c.events ++ (next a).events, c.built ++ (next a).built, (next a).result⟩ := by
  simp only [bind, h]

theorem bind_of_error {e : Error} (h : c.result = .error e) :
    c >>= next = ⟨c.events, c.built, .error e⟩ := by
  simp only [bind, h]

end Bind

end Construction

/-- A backend that a maker has built: how it is shown, and what it makes of a buffer while it reports to
a sink. -/
structure Made where
  shown : Except Error String
  run : Option Sink → Buffer → Except Error Outcome

/-- Calls on a maker to build a backend. -/
def Maker.make (m : Maker) (policy : Policy) (engine : Engine) : Construction Made where
  built := [m]
  result := .ok ⟨m.describe, m.run policy engine⟩

theorem Maker.make_bind {α : Type} (m : Maker) (policy : Policy) (engine : Engine)
    (next : Made → Construction α) :
    let rest := next ⟨m.describe, m.run policy engine⟩
    m.make policy engine >>= next = ⟨rest.events, m :: rest.built, rest.result⟩ := rfl

end SourceUnit
