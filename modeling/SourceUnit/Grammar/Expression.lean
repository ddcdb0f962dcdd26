import SourceUnit.Grammar.StringLiteral

/-! Expressions. Each definition is one rule; a rule tries its alternatives in the order given.
Rules that are reached recursively come in through `Rules`. -/
namespace SourceUnit.Grammar

variable (r : Rules)

/-- Joins a context or operator mark to the children of a node. -/
def withMark (children : List Tree) (k : Kind) : List Tree := children ++ [.mark k]

/-- `,` followed by something. -/
def afterComma {α : Type} (p : P α) : P α := group [do let _ ← expect ","; p]

/-- Target list of an assignment or loop. -/
def starTargets : P Tree := rule fun _ => choice [
  (do
    let a ← r.tree .starTarget
    notAhead (expect ",")
    return a),
  placed (do
    let a ← r.tree .starTarget
    let b ← many (afterComma (r.tree .starTarget))
    let _ ← optional (expect ",")
    return fun p => .placed .tuple p (withMark (a :: b) .store))]

/-- Expressions separated by commas, starred ones among them; a comma makes a tuple. -/
def starExpressions : P Tree := rule fun _ => choice [
  placed (do
    let a ← r.tree .starExpression
    let b ← many1 (afterComma (r.tree .starExpression))
    let _ ← optional (expect ",")
    return fun p => .placed .tuple p (withMark (a :: b) .load)),
  placed (do
    let a ← r.tree .starExpression
    let _ ← expect ","
    return fun p => .placed .tuple p (withMark [a] .load)),
  r.tree .starExpression]

def starExpression : P Tree := choice [
  placed (do
    let _ ← expect "*"
    let a ← r.tree .bitwiseOr
    return fun p => .placed .starred p (withMark [a] .load)),
  r.tree .expression]

/-- Expressions separated by commas; a comma makes a tuple. -/
def expressions : P Tree := rule fun _ => choice [
  placed (do
    let a ← r.tree .expression
    let b ← many1 (afterComma (r.tree .expression))
    let _ ← optional (expect ",")
    return fun p => .placed .tuple p (withMark (a :: b) .load)),
  placed (do
    let a ← r.tree .expression
    let _ ← expect ","
    return fun p => .placed .tuple p (withMark [a] .load)),
  r.tree .expression]

def yieldExpr : P Tree := rule fun _ => choice [
  placed (do
    let _ ← expect "yield"
    let _ ← expect "from"
    let a ← r.tree .expression
    return fun p => .placed .yieldFrom p [a]),
  placed (do
    let _ ← expect "yield"
    let a ← optional (starExpressions r)
    return fun p => .placed .yield p a.toList)]

/-- `name := value`. -/
def assignmentExpression : P Tree := rule fun _ => choice [
  spanning (do
    let a ← name
    let _ ← expect ":="
    commit (do
      let b ← r.tree .expression
      return fun p =>
        since 8 "Assignment expressions are" (.placed .namedExpr p [a.withContext .store, b])))]

def namedExpression : P Tree := rule fun _ => choice [
  assignmentExpression r,
  explained (r.tree .invalidNamedExpression),
  (do
    let a ← r.tree .expression
    notAhead (expect ":=")
    return a)]

def starNamedExpression : P Tree := rule fun _ => choice [
  placed (do
    let _ ← expect "*"
    let a ← r.tree .bitwiseOr
    return fun p => .placed .starred p (withMark [a] .load)),
  namedExpression r]

def starNamedExpressions : P (List Tree) := rule fun _ => do
  let a ← sepBy1 (starNamedExpression r) (expect ",")
  let _ ← optional (expect ",")
  return a

/-- `*value` among the arguments of a call. -/
def starredExpression : P Tree := rule fun _ => placed (do
  let _ ← expect "*"
  let a ← r.tree .expression
  return fun p => .placed .starred p (withMark [a] .load))

/-- An expression that is not the target of `:=`, or such an assignment. -/
def plainArgument : P Tree := group [
  assignmentExpression r,
  (do
    let a ← r.tree .expression
    notAhead (expect ":=")
    return a)]

/-! ### Operators -/

/-- Operands joined by one word. -/
def boolOperation (word : String) (op : Kind) (operand : P Tree) : P Tree := choice [
  placed (do
    let a ← operand
    let b ← many1 (group [do let _ ← expect word; operand])
    return fun p => .placed .boolOp p (.mark op :: a :: b)),
  operand]

def inversion : P Tree := choice [
  placed (do
    let _ ← expect "not"
    let a ← r.tree .inversion
    return fun p => .placed .unaryOp p [.mark .not, a]),
  rule fun _ => choice [
    placed (do
      let a ← r.tree .bitwiseOr
      let b ← many1 comparePair
      return fun p => .placed .compare p (a :: b.map (fun x => .mark x.1) ++ b.map (·.2))),
    r.tree .bitwiseOr]]
where
  pair (words : P Unit) (k : Kind) : P (Kind × Tree) := rule fun _ => do
    words
    let a ← r.tree .bitwiseOr
    return (k, a)
  word (s : String) : P Unit := do let _ ← expect s
  comparePair : P (Kind × Tree) := rule fun _ => choice [
    pair (word "==") .eq,
    pair (group [word "!="]) .notEq,
    pair (word "<=") .ltE,
    pair (word "<") .lt,
    pair (word ">=") .gtE,
    pair (word ">") .gt,
    pair (do word "not"; word "in") .notIn,
    pair (word "in") .isIn,
    pair (do word "is"; word "not") .isNot,
    pair (word "is") .is]

/-- One alternative of a left-recursive operator rule. -/
def binary (left : P Tree) (op : String) (k : Kind) (right : P Tree) : P Tree := placed (do
  let a ← left
  let _ ← expect op
  let b ← right
  return fun p => .placed .binOp p [a, .mark k, b])

def bitwiseOr : P Tree := choice [
  binary (r.tree .bitwiseOr) "|" .bitOr (r.tree .bitwiseXor), r.tree .bitwiseXor]

def bitwiseXor : P Tree := choice [
  binary (r.tree .bitwiseXor) "^" .bitXor (r.tree .bitwiseAnd), r.tree .bitwiseAnd]

def bitwiseAnd : P Tree := choice [
  binary (r.tree .bitwiseAnd) "&" .bitAnd (r.tree .shift), r.tree .shift]

def shiftExpr : P Tree := choice [
  binary (r.tree .shift) "<<" .lShift (r.tree .sum),
  binary (r.tree .shift) ">>" .rShift (r.tree .sum),
  r.tree .sum]

def sumExpr : P Tree := choice [
  binary (r.tree .sum) "+" .add (r.tree .term),
  binary (r.tree .sum) "-" .sub (r.tree .term),
  r.tree .term]

def termExpr : P Tree := choice [
  binary (r.tree .term) "*" .mult (r.tree .factor),
  binary (r.tree .term) "/" .div (r.tree .factor),
  binary (r.tree .term) "//" .floorDiv (r.tree .factor),
  binary (r.tree .term) "%" .mod (r.tree .factor),
  (do
    let t ← binary (r.tree .term) "@" .matMult (r.tree .factor)
    since 5 "The '@' operator is" t),
  r.tree .factor]

def unary (op : String) (k : Kind) : P Tree := placed (do
  let _ ← expect op
  let a ← r.tree .factor
  return fun p => .placed .unaryOp p [.mark k, a])

def factorExpr : P Tree := choice [
  unary r "+" .uAdd,
  unary r "-" .uSub,
  unary r "~" .invert,
  rule fun _ => choice [
    placed (do
      let a ← r.tree .awaitPrimary
      let _ ← expect "**"
      let b ← r.tree .factor
      return fun p => .placed .binOp p [a, .mark .pow, b]),
    r.tree .awaitPrimary]]

def awaitPrimary : P Tree := choice [
  spanning (do
    let _ ← expect "await"
    let a ← r.tree .primary
    return fun p => since 5 "Await expressions are" (.placed .await p [a])),
  r.tree .primary]

/-! ### Primaries -/

def sliceExpr : P Tree := rule fun _ => choice [
  placed (do
    let a ← optional (r.tree .expression)
    let _ ← expect ":"
    let b ← optional (r.tree .expression)
    let c ← optional (group [do let _ ← expect ":"; optional (r.tree .expression)])
    return fun p => .placed .slice p (a.toList ++ b.toList ++ c.join.toList)),
  namedExpression r]

def slices : P Tree := rule fun _ => choice [
  (do
    let a ← sliceExpr r
    notAhead (expect ",")
    return a),
  placed (do
    let a ← sepBy1 (group [sliceExpr r, starredExpression r]) (expect ",")
    let _ ← optional (expect ",")
    return fun p => .placed .tuple p (withMark a .load))]

/-- Refuses target lists that cannot be looped over, naming the part at fault. -/
def invalidForTarget {α : Type} : P α := rule fun _ => do
  let _ ← optional (expect "async")
  let _ ← expect "for"
  let a ← starExpressions r
  match a.invalidTarget? .looped with
  | some t => raiseAt t.place s!"cannot assign to {t.noun}"
  | none => P.reject

/-- One `for` of a comprehension with its conditions. -/
def forIfClause : P Tree := rule fun _ => choice [
  (do
    let _ ← expect "async"
    let t ← clause
    since 6 "Async comprehensions are" t),
  clause,
  explained (invalidForTarget r)]
where
  clause : P Tree := do
    let _ ← expect "for"
    let a ← starTargets r
    let _ ← expect "in"
    commit (do
      let b ← r.tree .disjunction
      let c ← many (group [do let _ ← expect "if"; r.tree .disjunction])
      return .bare .comprehension (a :: b :: c))

def forIfClauses : P (List Tree) := rule fun _ => many1 (forIfClause r)

/-- Comprehensions whose first part cannot be what it is. -/
def invalidComprehension {α : Type} : P α := rule fun _ => choice [
  (do
    let _ ← group [expect "[", expect "(", expect "\x7b"]
    let a ← starredExpression r
    let _ ← forIfClauses r
    raiseAt a.place "iterable unpacking cannot be used in comprehension"),
  (do
    let _ ← group [expect "[", expect "\x7b"]
    let a ← starNamedExpression r
    let _ ← expect ","
    let b ← starNamedExpressions r
    let _ ← forIfClauses r
    raiseRange a.place (b.getLast?.getD a).place
      "did you forget parentheses around the comprehension target?"),
  (do
    let _ ← group [expect "[", expect "\x7b"]
    let a ← starNamedExpression r
    let b ← expect ","
    let _ ← forIfClauses r
    raiseRange a.place b.place "did you forget parentheses around the comprehension target?")]

def genexp : P Tree := rule fun _ => choice [
  placed (do
    let _ ← expect "("
    let a ← plainArgument r
    let b ← forIfClauses r
    let _ ← expect ")"
    return fun p => .placed .generatorExp p (a :: b)),
  explained (invalidComprehension r)]

def listDisplay : P Tree := rule fun _ => placed (do
  let _ ← expect "["
  let a ← optional (starNamedExpressions r)
  let _ ← expect "]"
  return fun p => .placed .list p (withMark (a.getD []) .load))

def listComp : P Tree := rule fun _ => choice [
  placed (do
    let _ ← expect "["
    let a ← namedExpression r
    let b ← forIfClauses r
    let _ ← expect "]"
    return fun p => .placed .listComp p (a :: b)),
  explained (invalidComprehension r)]

def tupleDisplay : P Tree := rule fun _ => placed (do
  let _ ← expect "("
  let a ← optional (group [do
    let y ← starNamedExpression r
    let _ ← expect ","
    let z ← optional (starNamedExpressions r)
    return y :: z.getD []])
  let _ ← expect ")"
  return fun p => .placed .tuple p (withMark (a.getD []) .load))

def invalidGroup {α : Type} : P α := rule fun _ => choice [
  (do
    let _ ← expect "("
    let a ← starredExpression r
    let _ ← expect ")"
    raiseAt a.place "cannot use starred expression here"),
  (do
    let _ ← expect "("
    let a ← expect "**"
    let _ ← r.tree .expression
    let _ ← expect ")"
    raiseAt a.place "cannot use double starred expression here")]

def groupExpr : P Tree := rule fun _ => choice [
  (do
    let _ ← expect "("
    let a ← group [yieldExpr r, namedExpression r]
    let _ ← expect ")"
    return a),
  explained (invalidGroup r)]

def setDisplay : P Tree := rule fun _ => placed (do
  let _ ← expect "\x7b"
  let a ← starNamedExpressions r
  let _ ← expect "\x7d"
  return fun p => .placed .set p a)

def setComp : P Tree := rule fun _ => choice [
  placed (do
    let _ ← expect "\x7b"
    let a ← namedExpression r
    let b ← forIfClauses r
    let _ ← expect "\x7d"
    return fun p => .placed .setComp p (a :: b)),
  explained (invalidComprehension r)]

/-- `key: value`. -/
def keyValue : P (Tree × Tree) := rule fun _ => do
  let a ← r.tree .expression
  let _ ← expect ":"
  let b ← r.tree .expression
  return (a, b)

/-- `key: value`, or `**mapping` which has no key. -/
def starredKeyValue : P (Option Tree × Tree) := rule fun _ => choice [
  (do
    let _ ← expect "**"
    let a ← r.tree .bitwiseOr
    return (none, a)),
  (do
    let (k, v) ← keyValue r
    return (some k, v))]

/-- A dictionary entry without a value. -/
def invalidKeyValue {α : Type} : P α := rule fun _ => choice [
  (do
    let a ← r.tree .expression
    notAhead (expect ":")
    raiseOver .general a.place.line a.place.endCol (some (a.place.endLine, 0))
      "':' expected after dictionary key"),
  (do
    let _ ← r.tree .expression
    let _ ← expect ":"
    let a ← expect "*"
    let _ ← r.tree .bitwiseOr
    raiseFrom a.place "cannot use a starred expression in a dictionary value"),
  (do
    let _ ← r.tree .expression
    let a ← expect ":"
    ahead (group [expect "\x7d", expect ","])
    raiseAt a.place "expression expected after dictionary key and ':'")]

def invalidKeyValues {α : Type} : P α := rule fun _ => choice [
  (do
    let _ ← sepBy1 (starredKeyValue r) (expect ",")
    let _ ← expect ","
    invalidKeyValue r),
  (do
    let _ ← r.tree .expression
    let _ ← expect ":"
    let a ← expect "*"
    let _ ← r.tree .bitwiseOr
    raiseFrom a.place "cannot use a starred expression in a dictionary value"),
  (do
    let _ ← r.tree .expression
    let a ← expect ":"
    ahead (group [expect "\x7d", expect ","])
    raiseAt a.place "expression expected after dictionary key and ':'")]

def dictDisplay : P Tree := rule fun _ => choice [
  placed (do
    let _ ← expect "\x7b"
    let a ← optional entries
    let _ ← expect "\x7d"
    let a := a.getD []
    return fun p => .placed .dict p (a.filterMap (·.1) ++ a.map (·.2))),
  (do
    let _ ← expect "\x7b"
    invalidKeyValues r)]
where
  entries : P (List (Option Tree × Tree)) := rule fun _ => do
    let a ← sepBy1 (starredKeyValue r) (expect ",")
    let _ ← optional (expect ",")
    return a

def dictComp : P Tree := rule fun _ => choice [
  placed (do
    let _ ← expect "\x7b"
    let (k, v) ← keyValue r
    let b ← forIfClauses r
    let _ ← expect "\x7d"
    return fun p => .placed .dictComp p (k :: v :: b)),
  explained (rule fun _ => do
    let _ ← expect "\x7b"
    let a ← expect "**"
    let _ ← r.tree .bitwiseOr
    let _ ← forIfClauses r
    let _ ← expect "\x7d"
    raiseAt a.place "dict unpacking cannot be used in dict comprehension")]

/-- Decimal digits of a number spelled in base ten, if it is a whole one. -/
def wholeDigits? (text : String) : Option Nat :=
  let cs := text.toList.filter (· != '_')
  if cs.all Numeral.isDigit then some cs.length else none

/-- Takes a number. -/
def numberLiteral : P Tree := do
  let l ← ofKind .number
  let e ← P.getEnv
  if e.release < 6 && l.text.contains '_' then
    raiseHere "Underscores in numeric literals are only supported in Python 3.6 and greater"
  else
    match wholeDigits? l.text with
    | some n =>
      if 4300 < n then
        raiseOver .general l.place.line 0 (some (l.place.endLine, 0))
          (s!"Exceeds the limit (4300) for integer string conversion: value has {n} digits; "
            ++ "use sys.set_int_max_str_digits() to increase the limit - Consider hexadecimal "
            ++ "for huge integer literals to avoid decimal conversion limits.")
      else return .constantAt l.text l.place
    | none => return .constantAt l.text l.place

/-- A word that is a constant. -/
def wordConstant (word : String) : P Tree := placed (do
  let _ ← expect word
  return fun p => .constantAt word p)

def atom : P Tree := rule fun _ => choice [
  name,
  wordConstant "True",
  wordConstant "False",
  wordConstant "None",
  (do
    ahead (ofKind .string)
    r.tree .strings),
  numberLiteral,
  (do
    ahead (expect "(")
    group [tupleDisplay r, groupExpr r, genexp r]),
  (do
    ahead (expect "[")
    group [listDisplay r, listComp r]),
  (do
    ahead (expect "\x7b")
    group [dictDisplay r, setDisplay r, dictComp r, setComp r]),
  wordConstant "..."]

/-- The arguments of a call in brackets. -/
def callPart : P CallArgs := do
  let _ ← expect "("
  let b ← optional r.arguments
  let _ ← expect ")"
  return b.getD ⟨[], [], ⟨0, -1, 0, -1⟩⟩

def primaryExpr : P Tree := choice [
  placed (do
    let a ← r.tree .primary
    let _ ← expect "."
    let b ← nameLexeme
    return fun p => .mk .attribute b.text (some p) [a, .mark .load]),
  placed (do
    let a ← r.tree .primary
    let b ← genexp r
    return fun p => .placed .call p [a, b]),
  placed (do
    let a ← r.tree .primary
    let b ← callPart r
    return fun p => .placed .call p (a :: b.args ++ b.keywords)),
  placed (do
    let a ← r.tree .primary
    let _ ← expect "["
    let b ← slices r
    let _ ← expect "]"
    return fun p => .placed .subscript p [a, b, .mark .load]),
  atom r]

end SourceUnit.Grammar
