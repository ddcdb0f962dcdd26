import SourceUnit.Grammar.Parameter

/-! Whole expressions: conditional ones, lambda expressions, and the mistakes that only show when a
whole expression has been read. -/
namespace SourceUnit.Grammar

variable (r : Rules)

/-- Whether a tree is a name that used to be a statement word. -/
def isLegacyWord (t : Tree) : Bool :=
  t.kind == .name && (t.label == "print" || t.label == "exec")

def conditional : P Tree := placed (do
  let a ← r.tree .disjunction
  let _ ← expect "if"
  let b ← r.tree .disjunction
  let _ ← expect "else"
  let c ← r.tree .expression
  return fun p => .placed .ifExp p [b, a, c])

/-- An expression read without looking for mistakes. -/
def quietExpression : P Tree := unexplained (rule fun _ => choice [
  conditional r,
  r.tree .disjunction,
  lambdaExpr r])

/-- Whether the lexeme before the current position stands outside of all brackets. -/
def endsOutsideBrackets : P Bool := fun e m =>
  .ok ((e.scan.lexemes[m.mark - 1]?.map (·.depth)).getD 0 == 0) m

/-- Two expressions without anything between them, or a condition without `else`. -/
def invalidExpression {α : Type} : P α := rule fun _ => choice [
  (do
    notAhead (group [
      (do
        let _ ← nameLexeme
        ofKind .string),
      anySoftWord])
    let a ← r.tree .disjunction
    let b ← quietExpression r
    if isLegacyWord a then P.reject
    else if ← endsOutsideBrackets then P.reject
    else raiseRange a.place b.place "invalid syntax. Perhaps you forgot a comma?"),
  (do
    let a ← r.tree .disjunction
    let _ ← expect "if"
    let b ← r.tree .disjunction
    notAhead (group [expect "else", expect ":"])
    raiseRange a.place b.place "expected 'else' after 'if' expression")]

/-- A call written without brackets. -/
def invalidLegacyExpression {α : Type} : P α := rule fun _ => do
  let a ← name
  notAhead (expect "(")
  let b ← starExpressions r
  if isLegacyWord a then
    raiseRange a.place b.place
      s!"Missing parentheses in call to '{a.label}'. Did you mean {a.label}(...)?"
  else P.reject

def expression : P Tree := choice [
  explained (invalidExpression r),
  explained (invalidLegacyExpression r),
  conditional r,
  r.tree .disjunction,
  lambdaExpr r]

/-- Assignments where only an expression may stand. -/
def invalidNamedExpression : P Tree := choice [
  (do
    let a ← r.tree .expression
    let _ ← expect ":="
    let _ ← r.tree .expression
    raiseAt a.place s!"cannot use assignment expressions with {a.noun}"),
  (do
    let a ← name
    let _ ← expect "="
    let b ← r.tree .bitwiseOr
    notAhead (group [expect "=", expect ":="])
    raiseRange a.place b.place "invalid syntax. Maybe you meant '==' or ':=' instead of '='?"),
  (do
    notAhead (group [
      (do let _ ← listDisplay r),
      (do let _ ← tupleDisplay r),
      (do let _ ← genexp r),
      (do let _ ← expect "True"),
      (do let _ ← expect "None"),
      (do let _ ← expect "False")])
    let a ← r.tree .bitwiseOr
    let _ ← expect "="
    let _ ← r.tree .bitwiseOr
    notAhead (group [expect "=", expect ":="])
    raiseAt a.place
      s!"cannot assign to {a.noun} here. Maybe you meant '==' instead of '='?")]

end SourceUnit.Grammar
