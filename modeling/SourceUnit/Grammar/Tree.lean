import SourceUnit.Grammar.Kind

/-! Syntax trees as a parse builds them: a kind, a label where the kind has one (the identifier of
a name, the spelling of a constant), a place, and the children in the order in which the kind
lists them. Columns are UTF-8 byte offsets. -/
namespace SourceUnit.Grammar

/-- Where a token or node stands. A column is `-1` where the token has no characters. -/
structure Place where
  line : Nat
  col : Int
  endLine : Nat
  endCol : Int
deriving DecidableEq, Repr

/-- From the start of one place to the end of another. -/
def Place.through (a b : Place) : Place := ⟨a.line, a.col, b.endLine, b.endCol⟩

/-- A syntax tree. Only positioned kinds have a place. -/
inductive Tree where
  | mk (kind : Kind) (label : String) (place : Option Place) (children : List Tree)

namespace Tree

def kind : Tree → Kind
  | mk k _ _ _ => k

def label : Tree → String
  | mk _ l _ _ => l

def place? : Tree → Option Place
  | mk _ _ p _ => p

def children : Tree → List Tree
  | mk _ _ _ c => c

/-- The place of a positioned node. -/
def place (t : Tree) : Place := t.place?.getD ⟨0, -1, 0, -1⟩

/-- A node that is nothing but its kind: a context or an operator. -/
def mark (k : Kind) : Tree := mk k "" none []

/-- A positioned node without a label. -/
def placed (k : Kind) (p : Place) (children : List Tree) : Tree := mk k "" (some p) children

/-- A node without a place. -/
def bare (k : Kind) (children : List Tree) : Tree := mk k "" none children

def nameAt (id : String) (p : Place) : Tree := mk .name id (some p) [mark .load]

/-- A constant; the label is its spelling, or `str` or `bytes` for text. -/
def constantAt (spelling : String) (p : Place) : Tree := mk .constant spelling (some p) []

mutual

/-- Number of nodes on the longest way down. -/
def depth : Tree → Nat
  | mk _ _ _ cs => depths cs + 1

def depths : List Tree → Nat
  | [] => 0
  | t :: ts => max (depth t) (depths ts)

end

mutual

/-- The same node in another context. Displays and starred nodes hand the context on to their
elements; attributes and subscripts keep theirs. -/
def withContext (ctx : Kind) : Tree → Tree
  | mk k l p cs =>
    match k with
    | .load | .store | .del => mark ctx
    | .name | .tuple | .list | .starred => mk k l p (withContexts ctx cs)
    | .attribute | .subscript => mk k l p (withLastContext ctx cs)
    | _ => mk k l p cs

def withContexts (ctx : Kind) : List Tree → List Tree
  | [] => []
  | t :: ts => withContext ctx t :: withContexts ctx ts

def withLastContext (ctx : Kind) : List Tree → List Tree
  | [] => []
  | [_] => [mark ctx]
  | t :: ts => t :: withLastContext ctx ts

end

/-- What an expression is called in an error message. -/
def noun (t : Tree) : String :=
  match t.kind with
  | .attribute => "attribute"
  | .subscript => "subscript"
  | .starred => "starred"
  | .name => "name"
  | .list => "list"
  | .tuple => "tuple"
  | .lambda => "lambda"
  | .call => "function call"
  | .boolOp | .binOp | .unaryOp => "expression"
  | .generatorExp => "generator expression"
  | .yield | .yieldFrom => "yield expression"
  | .await => "await expression"
  | .listComp => "list comprehension"
  | .setComp => "set comprehension"
  | .dictComp => "dict comprehension"
  | .dict => "dict literal"
  | .set => "set display"
  | .joinedStr | .formattedValue => "f-string expression"
  | .constant =>
    match t.label with
    | "None" => "None"
    | "True" => "True"
    | "False" => "False"
    | "..." => "ellipsis"
    | _ => "literal"
  | .compare => "comparison"
  | .ifExp => "conditional expression"
  | .namedExpr => "named expression"
  | _ => "expression"

/-- The places where something is assigned to or deleted. -/
inductive TargetRole where
  | assigned
  | deleted
  | looped
deriving DecidableEq

mutual

/-- The first part of an expression that cannot be a target in the given role. -/
def invalidTarget? (role : TargetRole) : Tree → Option Tree
  | mk k l p cs =>
    match k with
    | .list | .tuple => firstInvalid? role cs
    | .starred =>
      if role = .deleted then some (mk k l p cs) else headInvalid? role cs
    | .compare =>
      if role = .looped then
        if (cs[1]?.map kind) = some .isIn then headInvalid? role cs else none
      else some (mk k l p cs)
    | .name | .subscript | .attribute | .load | .store | .del => none
    | _ => some (mk k l p cs)

def firstInvalid? (role : TargetRole) : List Tree → Option Tree
  | [] => none
  | t :: ts =>
    match invalidTarget? role t with
    | some bad => some bad
    | none => firstInvalid? role ts

def headInvalid? (role : TargetRole) : List Tree → Option Tree
  | [] => none
  | t :: _ => invalidTarget? role t

end

end Tree

end SourceUnit.Grammar
