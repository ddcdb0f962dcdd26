import SourceUnit.Grammar.Pattern
import SourceUnit.Grammar.Statement

/-! Statements that hold blocks of statements. -/
namespace SourceUnit.Grammar

variable (r : Rules)

/-- Refuses a header whose block is missing. -/
def refuseMissingBlock {α : Type} (header : String) (a : Lexeme) : P α := do
  let _ ← newline
  notAhead indentMark
  raiseIndentation s!"expected an indented block after {header} on line {a.place.line}"

/-- Refuses a header that ends without a colon. -/
def refuseMissingColon {α : Type} : P α := do
  let _ ← newline
  raiseHere "expected ':'"

/-- `async` before a statement, if it is there. -/
def maybeAsync : P Unit := do
  let _ ← optional (expect "async")

/-! ### Conditions and loops -/

/-- Wrong forms of a word, a condition and a block. -/
def invalidConditional {α : Type} (word : String) : P α := rule fun _ => choice [
  (do
    let _ ← expect word
    let _ ← namedExpression r
    refuseMissingColon),
  (do
    let a ← expect word
    let _ ← namedExpression r
    let _ ← expect ":"
    refuseMissingBlock s!"'{word}' statement" a)]

def elseBlock : P (List Tree) := rule fun _ => choice [
  explained (rule fun _ => do
    let a ← expect "else"
    let _ ← expect ":"
    refuseMissingBlock "'else' statement" a),
  (do
    let _ ← expect "else"
    let _ ← force ":"
    r.block)]

/-- `if` or `elif` with all that belongs to it. -/
def branch (word : String) : P Tree := choice [
  explained (invalidConditional r word),
  placed (do
    let _ ← expect word
    let a ← namedExpression r
    let _ ← expect ":"
    let b ← r.block
    let c ← r.tree .elifStmt
    return fun p => .placed .ifStmt p (a :: b ++ [c])),
  placed (do
    let _ ← expect word
    let a ← namedExpression r
    let _ ← expect ":"
    let b ← r.block
    let c ← optional (elseBlock r)
    return fun p => .placed .ifStmt p (a :: b ++ c.getD []))]

def ifStmt : P Tree := rule fun _ => branch r "if"

def elifStmt : P Tree := branch r "elif"

def whileStmt : P Tree := rule fun _ => choice [
  explained (invalidConditional r "while"),
  placed (do
    let _ ← expect "while"
    let a ← namedExpression r
    let _ ← expect ":"
    let b ← r.block
    let c ← optional (elseBlock r)
    return fun p => .placed .whileStmt p (a :: b ++ c.getD []))]

def invalidFor {α : Type} : P α := rule fun _ => choice [
  (do
    let _ ← header
    refuseMissingColon),
  (do
    let a ← header
    let _ ← expect ":"
    refuseMissingBlock "'for' statement" a)]
where
  header : P Lexeme := do
    maybeAsync
    let a ← expect "for"
    let _ ← starTargets r
    let _ ← expect "in"
    let _ ← starExpressions r
    return a

def forStmt : P Tree := rule fun _ => choice [
  explained (invalidFor r),
  placed (loop .forStmt),
  (do
    let t ← placed (do
      let _ ← expect "async"
      loop .asyncFor)
    since 5 "Async for loops are" t),
  explained (invalidForTarget r)]
where
  loop (k : Kind) : P (Place → Tree) := do
    let _ ← expect "for"
    let a ← starTargets r
    let _ ← expect "in"
    commit (do
      let b ← starExpressions r
      let _ ← expect ":"
      let c ← r.block
      let d ← optional (elseBlock r)
      return fun p => .placed k p (a :: b :: c ++ d.getD []))

/-! ### Contexts -/

/-- What may follow a context item. -/
def afterItem : P Unit := do
  ahead (group [expect ",", expect ")", expect ":"])

def withItem : P Tree := rule fun _ => choice [
  (do
    let a ← r.tree .expression
    let _ ← expect "as"
    let b ← r.tree .starTarget
    afterItem
    return .bare .withItem [a, b]),
  explained (rule fun _ => do
    let _ ← r.tree .expression
    let _ ← expect "as"
    let a ← r.tree .expression
    afterItem
    refuseTarget .assigned a),
  (do
    let a ← r.tree .expression
    return .bare .withItem [a])]

/-- The header of a `with` statement, read only for its shape. -/
def withHeader (bracketed : Bool) : P Lexeme := do
  maybeAsync
  let a ← expect "with"
  if bracketed then
    let _ ← expect "("
    let _ ← items (expressions r)
    let _ ← optional (expect ",")
    let _ ← expect ")"
  else
    let _ ← items (r.tree .expression)
  return a
where
  items (p : P Tree) : P (List Unit) := sepBy1 (group [do
    let _ ← p
    let _ ← optional (group [do let _ ← expect "as"; r.tree .starTarget])]) (expect ",")

def invalidWithBlock {α : Type} : P α := rule fun _ => choice [form false, form true]
where
  form (bracketed : Bool) : P α := do
    let a ← withHeader r bracketed
    let _ ← expect ":"
    refuseMissingBlock "'with' statement" a

def invalidWith {α : Type} : P α := rule fun _ => choice [form false, form true]
where
  form (bracketed : Bool) : P α := do
    let _ ← withHeader r bracketed
    refuseMissingColon

def withStmt : P Tree := rule fun _ => choice [
  explained (invalidWithBlock r),
  (do
    let t ← placed (bracketed .withStmt)
    since 9 "Parenthesized context managers are" t),
  placed (plain .withStmt),
  asynchronous (bracketed .asyncWith),
  asynchronous (plain .asyncWith),
  explained (invalidWith r)]
where
  bracketed (k : Kind) : P (Place → Tree) := do
    let _ ← expect "with"
    let _ ← expect "("
    let a ← sepBy1 (withItem r) (expect ",")
    let _ ← optional (expect ",")
    let _ ← expect ")"
    let _ ← expect ":"
    let b ← r.block
    return fun p => .placed k p (a ++ b)
  plain (k : Kind) : P (Place → Tree) := do
    let _ ← expect "with"
    let a ← sepBy1 (withItem r) (expect ",")
    let _ ← expect ":"
    let b ← r.block
    return fun p => .placed k p (a ++ b)
  asynchronous (p : P (Place → Tree)) : P Tree := do
    let t ← placed (do
      let _ ← expect "async"
      p)
    since 5 "Async with statements are" t

/-! ### Exceptions -/

def invalidExcept {α : Type} : P α := rule fun _ => choice [
  (do
    let _ ← expect "except"
    let _ ← optional (expect "*")
    let a ← r.tree .expression
    let _ ← expect ","
    let _ ← expressions r
    asName
    let _ ← expect ":"
    raiseFrom a.place "multiple exception types must be parenthesized"),
  (do
    let _ ← expect "except"
    let _ ← optional (expect "*")
    let _ ← r.tree .expression
    asName
    refuseMissingColon),
  (do
    let _ ← expect "except"
    refuseMissingColon),
  (do
    let _ ← expect "except"
    let _ ← expect "*"
    let _ ← group [newline, expect ":"]
    raiseHere "expected one or more exception types")]

def exceptBlock : P Tree := rule fun _ => choice [
  explained (rule fun _ => choice [
    (do
      let a ← expect "except"
      let _ ← r.tree .expression
      asName
      let _ ← expect ":"
      refuseMissingBlock "'except' statement" a),
    (do
      let a ← expect "except"
      let _ ← expect ":"
      refuseMissingBlock "'except' statement" a)]),
  placed (do
    let _ ← expect "except"
    let a ← r.tree .expression
    asName
    let _ ← expect ":"
    let b ← r.block
    return fun p => .placed .exceptHandler p (a :: b)),
  placed (do
    let _ ← expect "except"
    let _ ← expect ":"
    let b ← r.block
    return fun p => .placed .exceptHandler p b),
  explained (invalidExcept r)]

def exceptStarBlock : P Tree := rule fun _ => choice [
  explained (rule fun _ => do
    let a ← expect "except"
    let _ ← expect "*"
    let _ ← r.tree .expression
    asName
    let _ ← expect ":"
    refuseMissingBlock "'except*' statement" a),
  placed (do
    let _ ← expect "except"
    let _ ← expect "*"
    let a ← r.tree .expression
    asName
    let _ ← expect ":"
    let b ← r.block
    return fun p => .placed .exceptHandler p (a :: b)),
  explained (invalidExcept r)]

def finallyBlock : P (List Tree) := rule fun _ => choice [
  explained (rule fun _ => do
    let a ← expect "finally"
    let _ ← expect ":"
    refuseMissingBlock "'finally' statement" a),
  (do
    let _ ← expect "finally"
    let _ ← force ":"
    r.block)]

def invalidTry {α : Type} : P α := rule fun _ => choice [
  (do
    let a ← expect "try"
    let _ ← expect ":"
    refuseMissingBlock "'try' statement" a),
  (do
    let _ ← expect "try"
    let _ ← expect ":"
    let _ ← r.block
    notAhead (group [expect "except", expect "finally"])
    raiseHere "expected 'except' or 'finally' block"),
  (do
    let _ ← expect "try"
    let _ ← expect ":"
    let _ ← many r.block
    let _ ← many1 (exceptBlock r)
    let a ← expect "except"
    let b ← expect "*"
    let _ ← r.tree .expression
    asName
    let _ ← expect ":"
    raiseRange a.place b.place "cannot have both 'except' and 'except*' on the same 'try'"),
  (do
    let _ ← expect "try"
    let _ ← expect ":"
    let _ ← many r.block
    let _ ← many1 (exceptStarBlock r)
    let a ← expect "except"
    let _ ← optional (group [do
      let _ ← r.tree .expression
      asName])
    let _ ← expect ":"
    raiseAt a.place "cannot have both 'except' and 'except*' on the same 'try'")]

def tryStmt : P Tree := rule fun _ => choice [
  explained (invalidTry r),
  placed (do
    let _ ← expect "try"
    let _ ← force ":"
    let a ← r.block
    let b ← finallyBlock r
    return fun p => .placed .tryStmt p (a ++ b)),
  placed (handled .tryStmt (exceptBlock r)),
  (do
    let t ← placed (handled .tryStar (exceptStarBlock r))
    since 11 "Exception groups are" t)]
where
  handled (k : Kind) (handler : P Tree) : P (Place → Tree) := do
    let _ ← expect "try"
    let _ ← force ":"
    let a ← r.block
    let b ← many1 handler
    let c ← optional (elseBlock r)
    let d ← optional (finallyBlock r)
    return fun p => .placed k p (a ++ b ++ c.getD [] ++ d.getD [])

/-! ### Matching -/

def subjectExpr : P Tree := rule fun _ => choice [
  placed (do
    let a ← starNamedExpression r
    let _ ← expect ","
    let b ← optional (starNamedExpressions r)
    return fun p => .placed .tuple p (withMark (a :: b.getD []) .load)),
  namedExpression r]

def guard : P Tree := rule fun _ => do
  let _ ← expect "if"
  namedExpression r

def caseBlock : P Tree := rule fun _ => choice [
  explained (rule fun _ => choice [
    (do
      let _ ← softWord "case"
      let _ ← patterns r
      let _ ← optional (guard r)
      refuseMissingColon),
    (do
      let a ← softWord "case"
      let _ ← patterns r
      let _ ← optional (guard r)
      let _ ← expect ":"
      refuseMissingBlock "'case' statement" a)]),
  (do
    let _ ← softWord "case"
    let a ← patterns r
    let b ← optional (guard r)
    let _ ← expect ":"
    let c ← r.block
    return .bare .matchCase (a :: b.toList ++ c))]

def matchStmt : P Tree := rule fun _ => choice [
  (do
    let t ← placed (do
      let _ ← softWord "match"
      let a ← subjectExpr r
      let _ ← expect ":"
      let _ ← newline
      let _ ← indentMark
      let b ← many1 (caseBlock r)
      let _ ← dedentMark
      return fun p => .placed .matchStmt p (a :: b))
    since 10 "Pattern matching is" t),
  explained (rule fun _ => choice [
    (do
      let _ ← softWord "match"
      let _ ← subjectExpr r
      refuseMissingColon),
    (do
      let a ← softWord "match"
      let _ ← subjectExpr r
      let _ ← expect ":"
      refuseMissingBlock "'match' statement" a)])]

/-! ### Definitions -/

/-- What a function returns, after an arrow. -/
def returnAnnotation : P (Option Tree) := optional (group [do
  let _ ← expect "->"
  r.tree .expression])

def invalidDef {α : Type} : P α := rule fun _ => do
  maybeAsync
  let a ← expect "def"
  let _ ← nameLexeme
  let _ ← expect "("
  let _ ← optional ((functionStyle r).params r)
  let _ ← expect ")"
  let _ ← returnAnnotation r
  let _ ← expect ":"
  refuseMissingBlock "function definition" a

/-- A function under its decorators. -/
def functionDefRaw (decorators : List Tree) : P Tree := rule fun _ => choice [
  explained (invalidDef r),
  placed (definition .functionDef),
  (do
    let t ← placed (do
      let _ ← expect "async"
      definition .asyncFunctionDef)
    since 5 "Async functions are" t)]
where
  definition (k : Kind) : P (Place → Tree) := do
    let _ ← expect "def"
    let n ← nameLexeme
    let _ ← force "("
    let a ← optional ((functionStyle r).params r)
    let _ ← expect ")"
    let b ← returnAnnotation r
    let _ ← force ":"
    let c ← r.block
    return fun p => .mk k n.text (some p) (a.getD noParams :: c ++ decorators ++ b.toList)

/-- The bases and keywords of a class. -/
def classArguments : P (Option CallArgs) := optional (group [callPart r])

def invalidClass {α : Type} : P α := rule fun _ => choice [
  (do
    let _ ← expect "class"
    let _ ← nameLexeme
    let _ ← classArguments r
    refuseMissingColon),
  (do
    let a ← expect "class"
    let _ ← nameLexeme
    let _ ← classArguments r
    let _ ← expect ":"
    refuseMissingBlock "class definition" a)]

/-- A class under its decorators. -/
def classDefRaw (decorators : List Tree) : P Tree := rule fun _ => choice [
  explained (invalidClass r),
  placed (do
    let _ ← expect "class"
    let n ← nameLexeme
    let a ← classArguments r
    let _ ← expect ":"
    let b ← r.block
    let bases := (a.map fun c => c.args ++ c.keywords).getD []
    return fun p => .mk .classDef n.text (some p) (bases ++ b ++ decorators))]

def decorators : P (List Tree) := rule fun _ => many1 (group [do
  let _ ← expect "@"
  let a ← namedExpression r
  let _ ← newline
  return a])

/-- A definition with or without decorators. -/
def decorated (raw : List Tree → P Tree) : P Tree := rule fun _ => choice [
  (do
    let d ← decorators r
    raw d),
  raw []]

/-! ### Statements -/

def compoundStmt : P Tree := rule fun _ => choice [
  (do
    ahead (group [expect "def", expect "@", expect "async"])
    decorated r (functionDefRaw r)),
  led "if" (ifStmt r),
  (do
    ahead (group [expect "class", expect "@"])
    decorated r (classDefRaw r)),
  (do
    ahead (group [expect "with", expect "async"])
    withStmt r),
  (do
    ahead (group [expect "for", expect "async"])
    forStmt r),
  led "try" (tryStmt r),
  led "while" (whileStmt r),
  matchStmt r]

def statement : P (List Tree) := rule fun _ => choice [
  (do
    let a ← compoundStmt r
    return [a]),
  simpleStmts r]

def statements : P (List Tree) := rule fun _ => do
  let a ← many1 (statement r)
  return a.flatten

def block : P (List Tree) := choice [
  (do
    let _ ← newline
    let _ ← indentMark
    let a ← statements r
    let _ ← dedentMark
    return a),
  simpleStmts r,
  explained (rule fun _ => do
    let _ ← newline
    notAhead indentMark
    raiseIndentation "expected an indented block")]

/-- A whole file. -/
def file : P Tree := rule fun _ => do
  let a ← optional (statements r)
  let _ ← ofKind .stop
  return .bare .module (a.getD [])

end SourceUnit.Grammar
