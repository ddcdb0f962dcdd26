import SourceUnit.Grammar.Parser

/-! Running a parser over a scanned text. A first pass uses the rules of valid text only. If it
fails, a second pass adds the rules that explain errors; if they explain nothing, the error is
placed at the last lexeme that the first pass fetched. A fault of the scanner further on in the
text takes precedence over both. -/
namespace SourceUnit.Grammar

/-- Result of a run: a value or the reason there is none, and the doubts in order. -/
structure Run (α : Type) where
  result : Except Abort α
  doubts : List Warning

/-- True when scanning could go on after the lexemes fetched so far. -/
def Env.scanning (e : Env) (m : Memory) : Bool :=
  match e.scan.lexemes[m.fetched - 1]? with
  | some l => !l.after.ended && l.kind != .bad
  | none => true

/-- Scans the rest of the text and replaces a fault by what the scanner finds: a fault of its own,
or a bracket left open on an earlier line than the last lexeme fetched. -/
def preferScanFault (e : Env) (m : Memory) (why : Abort) : Abort × Memory :=
  let rest := e.scan.lexemes.toList.drop m.fetched
  let line := ((e.scan.lexemes[m.fetched - 1]?).map (·.place.line)).getD 0
  let doubts := rest.foldl (fun acc l => l.doubts.reverse ++ acc) m.doubts
  let end_ := { m with doubts, fetched := e.scan.lexemes.size }
  match e.scan.fault, e.scan.brackets with
  | none, _ => (why, end_)
  | some (.told fault), _ => (.told fault, end_)
  | some _, [] => (why, end_)
  | some _, b :: _ =>
    if b.line < line then
      match (raiseUnclosed : P Unit) e end_ with
      | .abort why m => (why, m)
      | _ => (why, end_)
    else (why, end_)

/-- The outcome of a run that ended in a fault. -/
def settle {α : Type} (e : Env) (m : Memory) (why : Abort) : Run α :=
  match why with
  | .tooDeep => ⟨.error .tooDeep, m.doubts.reverse⟩
  | .told _ =>
    if e.scanning m then
      let (why, m) := preferScanFault e m why
      ⟨.error why, m.doubts.reverse⟩
    else ⟨.error why, m.doubts.reverse⟩

/-- The fault of a text that no rule explains. -/
def unexplainedFault {α : Type} (e : Env) (m : Memory) (last : Option Lexeme) : Run α :=
  let finish (r : Outcome Unit) (prefer : Bool) : Run α :=
    match r with
    | .abort why m =>
      if prefer then
        let (why, m) := preferScanFault e m why
        ⟨.error why, m.doubts.reverse⟩
      else ⟨.error why, m.doubts.reverse⟩
    | .ok _ m | .fail _ m => ⟨.error .tooDeep, m.doubts.reverse⟩
  match last with
  | none => finish (raiseHere "error at start before reading any input" e m) false
  | some l =>
    match l.kind with
    | .indent => finish (raiseIndentation "unexpected indent" e m) false
    | .dedent => finish (raiseIndentation "unexpected unindent" e m) false
    | _ => finish (raiseAt l.place "invalid syntax" e m) true

/-- Runs a parser over a scanned text in two passes. -/
def run {α : Type} (start : P α) (e : Env) : Run α :=
  match start e {} with
  | .ok a m => ⟨.ok a, m.doubts.reverse⟩
  | .abort why m => settle e m why
  | .fail _ m =>
    let last := e.scan.lexemes[m.fetched - 1]?
    match start { e with explaining := true } { fetched := m.fetched, doubts := m.doubts } with
    | .abort why m => settle e m why
    | .ok _ m | .fail _ m => unexplainedFault e m last

end SourceUnit.Grammar
