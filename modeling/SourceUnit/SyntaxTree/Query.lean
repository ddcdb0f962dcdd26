import SourceUnit.SyntaxTree

/-! Questions to a tree, and what else may happen to it between two of them: it may be completed, and
the buffer below it may be given another source. -/
namespace SourceUnit.SyntaxTree

inductive Query where
  /-- The nodes below a node, or below the root. -/
  | walk (start : Option Node)
  | children (n : Node)
  | parent (n : Node)
  | span (n : Node)
  | enclosing (line col : Int)
  | associate (comments : List Comment)

inductive Answer where
  | nodes (ns : List Node)
  | maybeNode (n : Option Node)
  | maybeSpan (s : Option Span)
  | node (n : Node)
  | groups (gs : List (Node × List Comment))

/-- Answers a question. What is read on the way is remembered. -/
def ask (t : SyntaxTree) : Query → Answer × SyntaxTree
  | .walk start => (.nodes (start.getD t.root).walk, t)
  | .children n => (.nodes n.children, t)
  | .parent n =>
    let r := t.parentOf n
    (.maybeNode r.1, r.2)
  | .span n =>
    let r := t.spanOf n
    (.maybeSpan r.1, r.2)
  | .enclosing line col =>
    let r := t.enclosing line col
    (.node r.1, r.2)
  | .associate comments =>
    let r := t.associate comments
    (.groups r.1, r.2)

/-- Gives the buffer another source. One that is refused leaves the buffer as it was. -/
def reassign (t : SyntaxTree) (raw : RawSource) : SyntaxTree :=
  match h : t.buffer.assign raw with
  | .ok b => t.withBuffer b (Buffer.isAssigned_of_assign h)
  | .error _ => t

inductive Step where
  | ask (q : Query)
  | complete
  | assign (raw : RawSource)

/-- Takes a step; only a question is answered. -/
def step (t : SyntaxTree) : Step → Option Answer × SyntaxTree
  | .ask q =>
    let r := t.ask q
    (some r.1, r.2)
  | .complete => (none, t.complete)
  | .assign raw => (none, t.reassign raw)

/-- Takes steps one after the other and collects the answers. -/
def run (t : SyntaxTree) : List Step → List Answer × SyntaxTree
  | [] => ([], t)
  | s :: steps =>
    let r := t.step s
    let rest := r.2.run steps
    (r.1.toList ++ rest.1, rest.2)

end SourceUnit.SyntaxTree
