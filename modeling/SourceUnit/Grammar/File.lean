import SourceUnit.Grammar.Compound
import SourceUnit.Grammar.Run

/-! Parsing a whole file. The rules call each other through `Rules`; the knot is tied by a bound on
how deep they go, which lies above the limit that the parser itself sets. -/
namespace SourceUnit.Grammar

/-- The body of a rule, with its results remembered where the rule asks for it. -/
def treeRule (r : Rules) (t : TreeRule) : P Tree :=
  match t with
  | .expression => rememberTree t (expression r)
  | .starExpression => rememberTree t (starExpression r)
  | .disjunction => rememberTree t (boolOperation "or" .or (r.tree .conjunction))
  | .conjunction => rememberTree t (boolOperation "and" .and (r.tree .inversion))
  | .inversion => rememberTree t (inversion r)
  | .bitwiseOr => growTree t (bitwiseOr r)
  | .bitwiseXor => growTree t (bitwiseXor r)
  | .bitwiseAnd => growTree t (bitwiseAnd r)
  | .shift => growTree t (shiftExpr r)
  | .sum => growTree t (sumExpr r)
  | .term => growTree t (termExpr r)
  | .factor => rememberTree t (factorExpr r)
  | .awaitPrimary => rememberTree t (awaitPrimary r)
  | .primary => growTree t (primaryExpr r)
  | .strings => rememberTree t (stringLiterals (starExpressions r))
  | .starTarget => rememberTree t (starTarget r)
  | .targetWithStarAtom => rememberTree t (targetWithStarAtom r)
  | .singleTarget => singleTarget r
  | .tPrimary => growTree t (targetPrimary r)
  | .delTarget => rememberTree t (delTarget r)
  | .closedPattern => rememberTree t (closedPattern r)
  | .starPattern => rememberTree t starPattern
  | .attr => growTree t (attr r)
  | .dottedName => growTree t (dottedName r)
  | .simpleStmt => rememberTree t (simpleStmt r)
  | .elifStmt => elifStmt r
  | .invalidNamedExpression => rememberTree t (invalidNamedExpression r)
  | .invalidAnnTarget => invalidAnnTarget r

def rememberBlock (body : P (List Tree)) : P (List Tree) := fun e m =>
  let key := m.mark
  remembering (·.blocks[key]?) (fun mem v => { mem with blocks := mem.blocks.insert key v }) body e m

def rememberCall (body : P CallArgs) : P CallArgs := fun e m =>
  let key := m.mark
  remembering (·.calls[key]?) (fun mem v => { mem with calls := mem.calls.insert key v }) body e m

/-- The rules, calling each other up to a depth. -/
def rules : Nat → Rules
  | 0 =>
    { tree := fun _ _ m => .abort .tooDeep m
      block := fun _ m => .abort .tooDeep m
      arguments := fun _ m => .abort .tooDeep m }
  | n + 1 =>
    { tree := fun t e m => rule (fun _ => treeRule (rules n) t) e m
      block := fun e m => rule (fun _ => rememberBlock (block (rules n))) e m
      arguments := fun e m => rule (fun _ => rememberCall (callArguments (rules n))) e m }

/-- Parses a file for a language release. Replacement fields of strings start afresh and nest at
most as deep as there are kinds of quotes, so this bound is never met. -/
def parseFile (text : List Char) (release : Int) : Run Tree :=
  run (file (rules (8 * maxRuleDepth))) { scan := Scanner.scan text 1 none, release }

end SourceUnit.Grammar
