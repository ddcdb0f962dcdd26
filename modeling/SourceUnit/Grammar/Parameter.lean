import SourceUnit.Grammar.Expression

/-! Parameter lists, of functions and of lambda expressions. They differ in whether a parameter may
be annotated and in what closes the list. -/
namespace SourceUnit.Grammar

/-- A parameter with its default, if it has one. -/
structure Param where
  arg : Tree
  default : Option Tree

/-- What follows the positional parameters. -/
structure StarPart where
  rest : Option Tree := none
  keywordOnly : List Param := []
  mapping : Option Tree := none

/-- The `arguments` node of a parameter list. -/
def argumentsNode (positionalOnly plain : List Param) (star : StarPart) : Tree :=
  .bare .arguments
    (positionalOnly.map (·.arg) ++ plain.map (·.arg) ++ star.rest.toList
      ++ star.keywordOnly.map (·.arg) ++ star.keywordOnly.filterMap (·.default)
      ++ star.mapping.toList ++ positionalOnly.filterMap (·.default)
      ++ plain.filterMap (·.default))

/-- How a kind of parameter list is written. -/
structure ParamStyle where
  /-- One parameter name, with its annotation if it may have one. -/
  param : P Tree
  /-- A parameter whose annotation is starred, where that is allowed. -/
  starParam : Option (P Tree)
  /-- What closes the list. -/
  closer : String
  /-- Names the list in a fault about brackets around parameters. -/
  bracketed : String
  /-- Whether the fault about a bare star is placed at the star. -/
  blamesStar : Bool

/-- `: annotation` after the name of a function parameter. -/
def parameterType (r : Rules) : P Tree := rule fun _ => do
  let _ ← expect ":"
  r.tree .expression

/-- `: *annotation` after the name of a starred function parameter. -/
def starAnnotation (r : Rules) : P Tree := rule fun _ => do
  let _ ← expect ":"
  r.tree .starExpression

/-- Parameters of functions. -/
def functionStyle (r : Rules) : ParamStyle where
  param := rule fun _ => placed (do
    let a ← nameLexeme
    let b ← optional (parameterType r)
    return fun p => .mk .arg a.text (some p) b.toList)
  starParam := some (rule fun _ => placed (do
    let a ← nameLexeme
    let b ← starAnnotation r
    return fun p => .mk .arg a.text (some p) [b]))
  closer := ")"
  bracketed := "Function parameters cannot be parenthesized"
  blamesStar := true

/-- Parameters of lambda expressions. -/
def lambdaStyle : ParamStyle where
  param := rule fun _ => placed (do
    let a ← nameLexeme
    return fun p => .mk .arg a.text (some p) [])
  starParam := none
  closer := ":"
  bracketed := "Lambda expression parameters cannot be parenthesized"
  blamesStar := false

namespace ParamStyle

variable (r : Rules) (s : ParamStyle)

/-- A default value. -/
def defaultValue : P Tree := rule fun _ => choice [
  (do
    let _ ← expect "="
    r.tree .expression),
  explained (rule fun _ => do
    let a ← expect "="
    ahead (group [expect ")", expect ","])
    raiseAt a.place "expected default value expression")]

/-- Something that ends in a comma or stands before what closes the list. -/
def listed {α : Type} (p : P α) : P α := rule fun _ => choice [
  (do
    let a ← p
    let _ ← expect ","
    return a),
  (do
    let a ← p
    ahead (expect s.closer)
    return a)]

def paramNoDefault : P Tree := s.listed s.param

def paramWithDefault : P Param := s.listed (do
  let a ← s.param
  let d ← defaultValue r
  return ⟨a, some d⟩)

def paramMaybeDefault : P Param := s.listed (do
  let a ← s.param
  let d ← optional (defaultValue r)
  return ⟨a, d⟩)

def plainParam : P Param := do
  let a ← s.paramNoDefault
  return ⟨a, none⟩

/-- `/` and what must follow it. -/
def slash {α : Type} (p : P α) : P α := rule fun _ => choice [
  (do
    let a ← p
    let _ ← expect "/"
    let _ ← expect ","
    return a),
  (do
    let a ← p
    let _ ← expect "/"
    ahead (expect s.closer)
    return a)]

def slashNoDefault : P (List Param) := s.slash (many1 s.plainParam)

def slashWithDefault : P (List Param) := s.slash (do
  let a ← many s.plainParam
  let b ← many1 (s.paramWithDefault r)
  return a ++ b)

/-- A name, or the comma after a bare star. -/
def nameOrComma : P Unit := group [
  (do let _ ← s.paramNoDefault),
  (do let _ ← expect ",")]

def onlyOnce {α : Type} (l : Lexeme) : P α :=
  raiseAt l.place "arguments cannot follow var-keyword argument"

def invalidMapping {α : Type} : P α := rule fun _ => choice [
  (do
    let _ ← expect "**"
    let _ ← s.param
    let a ← expect "="
    raiseAt a.place "var-keyword argument cannot have default value"),
  (do
    let _ ← expect "**"
    let _ ← s.param
    let _ ← expect ","
    let a ← s.param
    raiseAt a.place "arguments cannot follow var-keyword argument"),
  (do
    let _ ← expect "**"
    let _ ← s.param
    let _ ← expect ","
    let a ← group [expect "*", expect "**", expect "/"]
    onlyOnce a)]

/-- `**name`. -/
def mapping : P Tree := rule fun _ => choice [
  explained (s.invalidMapping),
  (do
    let _ ← expect "**"
    s.paramNoDefault)]

def invalidStar {α : Type} : P α := rule fun _ => choice [
  (do
    let a ← expect "*"
    let _ ← group [
      expect s.closer,
      (do
        let _ ← expect ","
        group [expect s.closer, expect "**"])]
    if s.blamesStar then raiseAt a.place "named arguments must follow bare *"
    else raiseHere "named arguments must follow bare *"),
  (do
    let _ ← expect "*"
    let _ ← s.param
    let a ← expect "="
    raiseAt a.place "var-positional argument cannot have default value"),
  (do
    let _ ← expect "*"
    s.nameOrComma
    let _ ← many (s.paramMaybeDefault r)
    let a ← expect "*"
    s.nameOrComma
    raiseAt a.place "* argument may appear only once")]

/-- A star and what follows it, or a mapping parameter alone. -/
def starPart : P StarPart := rule fun _ => choice [
  explained (s.invalidStar r),
  (do
    let _ ← expect "*"
    let a ← s.paramNoDefault
    let b ← many (s.paramMaybeDefault r)
    let c ← optional s.mapping
    return ⟨some a, b, c⟩),
  (do
    let _ ← expect "*"
    let a ← match s.starParam with
      | some p => s.listed p
      | none => P.fail
    let b ← many (s.paramMaybeDefault r)
    let c ← optional s.mapping
    return ⟨some a, b, c⟩),
  (do
    let _ ← expect "*"
    let _ ← expect ","
    let b ← many1 (s.paramMaybeDefault r)
    let c ← optional s.mapping
    return ⟨none, b, c⟩),
  (do
    let a ← s.mapping
    return ⟨none, [], some a⟩)]

/-- Positional parameters in order: those before `/`, those without and those with a default. -/
def parameters : P Tree := rule fun _ => choice [
  (do
    let a ← s.slashNoDefault
    let b ← many s.plainParam
    let c ← many (s.paramWithDefault r)
    let d ← optional (s.starPart r)
    since 8 "Positional-only parameters are" (argumentsNode a (b ++ c) (d.getD {}))),
  (do
    let a ← s.slashWithDefault r
    let b ← many (s.paramWithDefault r)
    let c ← optional (s.starPart r)
    since 8 "Positional-only parameters are" (argumentsNode a b (c.getD {}))),
  (do
    let a ← many1 s.plainParam
    let b ← many (s.paramWithDefault r)
    let c ← optional (s.starPart r)
    return argumentsNode [] (a ++ b) (c.getD {})),
  (do
    let a ← many1 (s.paramWithDefault r)
    let b ← optional (s.starPart r)
    return argumentsNode [] a (b.getD {})),
  (do
    let a ← s.starPart r
    return argumentsNode [] [] a)]

/-- Parameters before `/`, with or without defaults. -/
def anySlash : P Unit := group [
  (do let _ ← s.slashNoDefault),
  (do let _ ← s.slashWithDefault r)]

def invalidParameters {α : Type} : P α := rule fun _ => choice [
  (do
    let _ ← many s.plainParam
    rule fun _ => choice [
      (do let _ ← s.slashWithDefault r),
      (do let _ ← many1 (s.paramWithDefault r))]
    let a ← s.paramNoDefault
    raiseAt a.place "non-default argument follows default argument"),
  (do
    let _ ← many s.plainParam
    let a ← expect "("
    if s.blamesStar then let _ ← many1 s.paramNoDefault
    else let _ ← sepBy1 s.param (expect ",")
    let _ ← optional (expect ",")
    let b ← expect ")"
    raiseRange a.place b.place s.bracketed),
  (do
    let a ← expect "/"
    let _ ← expect ","
    raiseAt a.place "at least one argument must precede /"),
  (do
    s.anySlash r
    let _ ← many (s.paramMaybeDefault r)
    let a ← expect "/"
    raiseAt a.place "/ may appear only once"),
  (do
    let _ ← optional (s.anySlash r)
    let _ ← many (s.paramMaybeDefault r)
    let _ ← expect "*"
    group [(do let _ ← expect ","), (do let _ ← s.paramNoDefault)]
    let _ ← many (s.paramMaybeDefault r)
    let a ← expect "/"
    raiseAt a.place "/ must be ahead of *"),
  (do
    let _ ← many1 (s.paramMaybeDefault r)
    let _ ← expect "/"
    let a ← expect "*"
    raiseAt a.place "expected comma between / and *")]

/-- A parameter list. -/
def params : P Tree := rule fun _ => choice [
  explained (s.invalidParameters r),
  s.parameters r]

end ParamStyle

/-- An empty parameter list. -/
def noParams : Tree := argumentsNode [] [] {}

def lambdaExpr (r : Rules) : P Tree := rule fun _ => placed (do
  let _ ← expect "lambda"
  let a ← optional (lambdaStyle.params r)
  let _ ← expect ":"
  let b ← r.tree .expression
  return fun p => .placed .lambda p [a.getD noParams, b])

end SourceUnit.Grammar
