import SourceUnit.Grammar.Expression

/-! The arguments of calls and class headers. -/
namespace SourceUnit.Grammar

variable (r : Rules)

/-- The last expression of a comprehension clause: its last condition, or what it loops over. -/
def lastOfClause (clauses : List Tree) (default : Tree) : Tree :=
  ((clauses.getLast?).bind (·.children.getLast?)).getD default

/-- `name = value`. -/
def namedArgument : P Tree := placed (do
  let a ← nameLexeme
  let _ ← expect "="
  let b ← r.tree .expression
  return fun p => .mk .keyword a.text (some p) [b])

def assignedComprehension {α : Type} : P α := do
  let a ← nameLexeme
  let b ← expect "="
  let _ ← r.tree .expression
  let _ ← forIfClauses r
  raiseRange a.place b.place "invalid syntax. Maybe you meant '==' or ':=' instead of '='?"

/-- Named arguments whose name cannot be one. -/
def invalidKeyword {α : Type} : P α := rule fun _ => choice [
  (do
    let a ← group [expect "True", expect "False", expect "None"]
    let b ← expect "="
    raiseRange a.place b.place s!"cannot assign to {a.text}"),
  assignedComprehension r,
  (do
    notAhead (group [do let _ ← nameLexeme; expect "="])
    let a ← r.tree .expression
    let b ← expect "="
    raiseRange a.place b.place
      "expression cannot contain assignment, perhaps you meant \"==\"?")]

/-- A named or starred argument. -/
def keywordOrStarred : P Tree := rule fun _ => choice [
  explained (invalidKeyword r),
  namedArgument r,
  starredExpression r]

/-- A named argument, or a mapping unpacked into several. -/
def keywordOrMapping : P Tree := rule fun _ => choice [
  explained (invalidKeyword r),
  namedArgument r,
  placed (do
    let _ ← expect "**"
    let a ← r.tree .expression
    return fun p => .placed .keyword p [a])]

/-- The arguments from the first named one on. -/
def keywordArguments : P (List Tree) := rule fun _ => choice [
  (do
    let a ← sepBy1 (keywordOrStarred r) (expect ",")
    let _ ← expect ","
    let b ← sepBy1 (keywordOrMapping r) (expect ",")
    return a ++ b),
  sepBy1 (keywordOrStarred r) (expect ","),
  sepBy1 (keywordOrMapping r) (expect ",")]

/-- Sorts arguments into positional and named ones. -/
def CallArgs.ofMixed (positional mixed : List Tree) (place : Place) : CallArgs where
  args := positional ++ mixed.filter (·.kind == .starred)
  keywords := mixed.filter (·.kind != .starred)
  place

/-- The arguments before the first named one. -/
def positionalArguments : P (List Tree) :=
  sepBy1 (group [
    starredExpression r,
    (do
      let a ← plainArgument r
      notAhead (expect "=")
      return a)]) (expect ",")

def args : P CallArgs := rule fun _ => choice [
  placed (do
    let a ← positionalArguments r
    let b ← optional (group [do let _ ← expect ","; keywordArguments r])
    return CallArgs.ofMixed a (b.getD [])),
  placed (do
    let a ← keywordArguments r
    return CallArgs.ofMixed [] a)]

/-- Argument lists in a wrong order, or with a bare generator among other arguments. -/
def invalidArguments {α : Type} : P α := rule fun _ => choice [
  (do
    let a ← args r
    let _ ← expect ","
    let _ ← expect "*"
    raiseAt a.place "iterable argument unpacking follows keyword argument unpacking"),
  (do
    let a ← r.tree .expression
    let b ← forIfClauses r
    let _ ← expect ","
    let _ ← optional (group [
      (do let _ ← args r),
      (do
        let _ ← r.tree .expression
        let _ ← forIfClauses r)])
    raiseRange a.place (lastOfClause b a).place "Generator expression must be parenthesized"),
  assignedComprehension r,
  (do
    let a ← args r
    let b ← forIfClauses r
    match a.args.length, a.args.getLast? with
    | 0, _ | 1, _ | _, none => P.reject
    | _, some last =>
      raiseRange last.place (lastOfClause b last).place
        "Generator expression must be parenthesized"),
  (do
    let _ ← args r
    let _ ← expect ","
    let a ← r.tree .expression
    let b ← forIfClauses r
    raiseRange a.place (lastOfClause b a).place "Generator expression must be parenthesized"),
  (do
    let a ← args r
    let _ ← expect ","
    let _ ← args r
    if a.keywords.any (·.label == "") then
      raiseHere "positional argument follows keyword argument unpacking"
    else raiseHere "positional argument follows keyword argument")]

def callArguments : P CallArgs := choice [
  (do
    let a ← args r
    let _ ← optional (expect ",")
    ahead (expect ")")
    return a),
  explained (invalidArguments r)]

end SourceUnit.Grammar
