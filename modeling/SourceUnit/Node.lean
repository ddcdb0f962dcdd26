import SourceUnit.Span

/-! Syntax nodes. A node has an identity; where a node is shared, the same node stands under several
parents. -/
namespace SourceUnit

/-- A position attribute: it may be absent, or be there without a value. -/
inductive Attr where
  | missing
  | null
  | value (n : Int)
deriving DecidableEq, Repr

def Attr.toOption : Attr → Option Int
  | .value n => some n
  | _ => none

/-- Where a node stands: lines from one, columns in UTF-8 bytes. -/
structure Position where
  line : Attr := .missing
  column : Attr := .missing
  endLine : Attr := .missing
  endColumn : Attr := .missing
deriving DecidableEq, Repr

inductive Node where
  | mk (id : Nat) (kind : String) (position : Position) (children : List Node)

namespace Node

def id : Node → Nat
  | mk i _ _ _ => i

def kind : Node → String
  | mk _ k _ _ => k

def position : Node → Position
  | mk _ _ p _ => p

def children : Node → List Node
  | mk _ _ _ cs => cs

/-- Line and column of the start, if the node has both. -/
def start? (n : Node) : Option (Int × Int) :=
  match n.position.line, n.position.column with
  | .value l, .value c => some (l, c)
  | _, _ => none

mutual

/-- Number of nodes in the tree below a node, itself included. -/
def size : Node → Nat
  | mk _ _ _ cs => sizes cs + 1

def sizes : List Node → Nat
  | [] => 0
  | n :: ns => size n + sizes ns

end

theorem sizes_append (xs ys : List Node) : sizes (xs ++ ys) = sizes xs + sizes ys := by
  induction xs with
  | nil => simp [sizes]
  | cons x xs ih => simp only [List.cons_append, sizes, ih]; omega

theorem size_eq (n : Node) : n.size = sizes n.children + 1 := by
  cases n with
  | mk i k p cs => simp only [size, children]

/-- Visits the nodes on a stack, each followed by its children, after the nodes already visited. -/
def walkFrom (visited : List Node) (stack : List Node) : List Node :=
  match stack with
  | [] => visited.reverse
  | n :: rest => walkFrom (n :: visited) (n.children ++ rest)
termination_by sizes stack
decreasing_by
  rw [sizes_append, sizes, size_eq n]
  omega

/-- The nodes below a node in depth-first order, each before its children. -/
def walk (n : Node) : List Node := walkFrom [] [n]

theorem sizes_flatMap_children (ns : List Node) :
    sizes (ns.flatMap children) + ns.length = sizes ns := by
  induction ns with
  | nil => simp [sizes]
  | cons n ns ih =>
    rw [List.flatMap_cons, sizes_append, sizes, size_eq n, List.length_cons]
    omega

/-- Visits level after level, after the nodes already visited. -/
def levelsFrom (visited : List Node) (level : List Node) : List Node :=
  match level with
  | [] => visited.reverse
  | n :: ns => levelsFrom ((n :: ns).reverse ++ visited) ((n :: ns).flatMap children)
termination_by sizes level
decreasing_by
  have := sizes_flatMap_children (n :: ns)
  simp only [List.length_cons] at this
  omega

/-- The nodes below a node in breadth-first order. -/
def levels (n : Node) : List Node := levelsFrom [] [n]

end Node

end SourceUnit
