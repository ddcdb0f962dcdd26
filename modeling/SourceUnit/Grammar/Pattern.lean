import SourceUnit.Grammar.Conditional

/-! The patterns of `case` blocks. -/
namespace SourceUnit.Grammar

variable (r : Rules)

/-- What may not follow a name that captures. -/
def notMember : P Unit := notAhead (group [expect ".", expect "(", expect "="])

/-- A name that a pattern binds. -/
def captureTarget : P Lexeme := rule fun _ => do
  notAhead (softWord "_")
  let a ← nameLexeme
  notMember
  return a

def signedNumber : P Tree := rule fun _ => choice [
  numberLiteral,
  placed (do
    let _ ← expect "-"
    let a ← numberLiteral
    return fun p => .placed .unaryOp p [.mark .uSub, a])]

/-- Whether a constant is an imaginary number. -/
def isImaginary (t : Tree) : Bool :=
  match t.label.toList.getLast? with
  | some c => c == 'j' || c == 'J'
  | none => false

def realNumber : P Tree := rule fun _ => do
  let a ← numberLiteral
  if isImaginary a then raiseAt a.place "real number required in complex literal" else return a

def imaginaryNumber : P Tree := rule fun _ => do
  let a ← numberLiteral
  if isImaginary a then return a else raiseAt a.place "imaginary number required in complex literal"

def signedRealNumber : P Tree := rule fun _ => choice [
  realNumber,
  placed (do
    let _ ← expect "-"
    let a ← realNumber
    return fun p => .placed .unaryOp p [.mark .uSub, a])]

def complexNumber : P Tree := rule fun _ => choice [
  binary signedRealNumber "+" .add imaginaryNumber,
  binary signedRealNumber "-" .sub imaginaryNumber]

/-- A number that is not the start of a complex one. -/
def loneNumber : P Tree := do
  let a ← signedNumber
  notAhead (group [expect "+", expect "-"])
  return a

/-- Turns the parser of a value into that of a pattern. -/
def valuePattern (p : P Tree) : P Tree := placed (do
  let a ← p
  return fun place => .placed .matchValue place [a])

def singletonPattern (word : String) : P Tree := placed (do
  let _ ← expect word
  return fun p => .placed .matchSingleton p [])

def literalPattern : P Tree := rule fun _ => choice [
  valuePattern loneNumber,
  valuePattern complexNumber,
  valuePattern (r.tree .strings),
  singletonPattern "None",
  singletonPattern "True",
  singletonPattern "False"]

/-- The literals that can be keys of a mapping pattern. -/
def literalKey : P Tree := rule fun _ => choice [
  loneNumber,
  complexNumber,
  r.tree .strings,
  wordConstant "None",
  wordConstant "True",
  wordConstant "False"]

def nameOrAttr : P Tree := rule fun _ => choice [r.tree .attr, name]

def attr : P Tree := placed (do
  let a ← nameOrAttr r
  let _ ← expect "."
  let b ← nameLexeme
  return fun p => .mk .attribute b.text (some p) [a, .mark .load])

def orPattern : P Tree := rule fun _ => placed (do
  let a ← sepBy1 (r.tree .closedPattern) (expect "|")
  return fun p =>
    match a with
    | [t] => t
    | _ => .placed .matchOr p a)

def invalidAsPattern {α : Type} : P α := rule fun _ => choice [
  (do
    let _ ← orPattern r
    let _ ← expect "as"
    let a ← softWord "_"
    raiseAt a.place "cannot use '_' as a target"),
  (do
    let _ ← orPattern r
    let _ ← expect "as"
    notAhead nameLexeme
    let a ← r.tree .expression
    raiseAt a.place "invalid pattern target")]

def asPattern : P Tree := rule fun _ => choice [
  placed (do
    let a ← orPattern r
    let _ ← expect "as"
    let b ← captureTarget
    return fun p => .mk .matchAs b.text (some p) [a]),
  explained (invalidAsPattern r)]

def pattern : P Tree := rule fun _ => choice [asPattern r, orPattern r]

def wildcardPattern : P Tree := rule fun _ => placed (do
  let _ ← softWord "_"
  return fun p => .placed .matchAs p [])

def starPattern : P Tree := choice [
  placed (do
    let _ ← expect "*"
    let a ← captureTarget
    return fun p => .mk .matchStar a.text (some p) []),
  placed (do
    let _ ← expect "*"
    let _ ← wildcardPattern
    return fun p => .placed .matchStar p [])]

def maybeStarPattern : P Tree := rule fun _ => choice [r.tree .starPattern, pattern r]

def maybeSequencePattern : P (List Tree) := rule fun _ => do
  let a ← sepBy1 (maybeStarPattern r) (expect ",")
  let _ ← optional (expect ",")
  return a

def openSequencePattern : P (List Tree) := rule fun _ => do
  let a ← maybeStarPattern r
  let _ ← expect ","
  let b ← optional (maybeSequencePattern r)
  return a :: b.getD []

def sequencePattern : P Tree := rule fun _ => choice [
  placed (do
    let _ ← expect "["
    let a ← optional (maybeSequencePattern r)
    let _ ← expect "]"
    return fun p => .placed .matchSequence p (a.getD [])),
  placed (do
    let _ ← expect "("
    let a ← optional (openSequencePattern r)
    let _ ← expect ")"
    return fun p => .placed .matchSequence p (a.getD []))]

def keyValuePattern : P (Tree × Tree) := rule fun _ => do
  let k ← group [literalKey r, r.tree .attr]
  let _ ← expect ":"
  let v ← pattern r
  return (k, v)

def itemsPattern : P (List (Tree × Tree)) :=
  rule fun _ => sepBy1 (keyValuePattern r) (expect ",")

def doubleStarPattern : P Lexeme := rule fun _ => do
  let _ ← expect "**"
  captureTarget

/-- Keys come before values among the children of a mapping pattern. -/
def mappingNode (items : List (Tree × Tree)) (p : Place) : Tree :=
  .placed .matchMapping p (items.map (·.1) ++ items.map (·.2))

def mappingPattern : P Tree := rule fun _ => choice [
  placed (do
    let _ ← expect "\x7b"
    let _ ← expect "\x7d"
    return mappingNode []),
  placed (do
    let _ ← expect "\x7b"
    let _ ← doubleStarPattern
    let _ ← optional (expect ",")
    let _ ← expect "\x7d"
    return mappingNode []),
  placed (do
    let _ ← expect "\x7b"
    let a ← itemsPattern r
    let _ ← expect ","
    let _ ← doubleStarPattern
    let _ ← optional (expect ",")
    let _ ← expect "\x7d"
    return mappingNode a),
  placed (do
    let _ ← expect "\x7b"
    let a ← itemsPattern r
    let _ ← optional (expect ",")
    let _ ← expect "\x7d"
    return mappingNode a)]

def positionalPatterns : P (List Tree) := rule fun _ => sepBy1 (pattern r) (expect ",")

def keywordPattern : P Tree := rule fun _ => do
  let _ ← nameLexeme
  let _ ← expect "="
  pattern r

def keywordPatterns : P (List Tree) := rule fun _ => sepBy1 (keywordPattern r) (expect ",")

def invalidClassPattern {α : Type} : P α := rule fun _ => do
  let _ ← nameOrAttr r
  let _ ← expect "("
  let a ← rule fun _ => do
    let _ ← optional (group [do
      let _ ← positionalPatterns r
      expect ","])
    let _ ← keywordPatterns r
    let _ ← expect ","
    positionalPatterns r
  match a.head?, a.getLast? with
  | some first, some last =>
    raiseRange first.place last.place "positional patterns follow keyword patterns"
  | _, _ => P.reject

def classPattern : P Tree := rule fun _ => choice [
  placed (do
    let a ← nameOrAttr r
    let _ ← expect "("
    let _ ← expect ")"
    return fun p => .placed .matchClass p [a]),
  placed (do
    let a ← nameOrAttr r
    let _ ← expect "("
    let b ← positionalPatterns r
    let _ ← optional (expect ",")
    let _ ← expect ")"
    return fun p => .placed .matchClass p (a :: b)),
  placed (do
    let a ← nameOrAttr r
    let _ ← expect "("
    let b ← keywordPatterns r
    let _ ← optional (expect ",")
    let _ ← expect ")"
    return fun p => .placed .matchClass p (a :: b)),
  placed (do
    let a ← nameOrAttr r
    let _ ← expect "("
    let b ← positionalPatterns r
    let _ ← expect ","
    let c ← keywordPatterns r
    let _ ← optional (expect ",")
    let _ ← expect ")"
    return fun p => .placed .matchClass p (a :: b ++ c)),
  explained (invalidClassPattern r)]

def closedPattern : P Tree := choice [
  literalPattern r,
  rule fun _ => placed (do
    let a ← captureTarget
    return fun p => .mk .matchAs a.text (some p) []),
  wildcardPattern,
  rule fun _ => valuePattern (do
    let a ← r.tree .attr
    notMember
    return a),
  rule fun _ => do
    let _ ← expect "("
    let a ← pattern r
    let _ ← expect ")"
    return a,
  sequencePattern r,
  mappingPattern r,
  classPattern r]

/-- The pattern of a `case`; a comma makes it a sequence. -/
def patterns : P Tree := rule fun _ => choice [
  placed (do
    let a ← openSequencePattern r
    return fun p => .placed .matchSequence p a),
  pattern r]

end SourceUnit.Grammar
