import SourceUnit.Buffer
import SourceUnit.Node
import SourceUnit.Token
import Std.Data.HashMap

/-! A syntax tree over a buffer: spans in character columns, parents, and the node around a
position. Spans are remembered as they are asked for; completing the tree remembers all of them and
the parents, so that later answers no longer depend on the buffer. -/
namespace SourceUnit

structure SyntaxTree where
  buffer : Buffer
  /-- There is a text to read places off. -/
  assigned : buffer.isAssigned = true
  root : Node
  /-- The parent of each node, once the tree is complete. -/
  parents : Option (Std.HashMap Nat Node) := none
  spans : Std.HashMap Nat Span := {}

namespace SyntaxTree

/-- A tree over an assigned buffer. -/
def ofRoot (buffer : Buffer) (assigned : buffer.isAssigned = true) (root : Node) : SyntaxTree where
  buffer := buffer.remember
  assigned := buffer.isAssigned_remember.trans assigned
  root := root

/-- A tree over a buffer that is read only now. -/
def ofBuffer (buffer : Buffer) (root : Node) : Except Error SyntaxTree :=
  if h : buffer.isAssigned = true then .ok (ofRoot buffer h root)
  else .error (.unassigned buffer.name)

/-- The span of a node, read off the text of a buffer. A node without an end line ends on its first
line, and one without an end column ends at its start column. -/
def readSpan (b : Buffer) (n : Node) : Except Error (Option Span) :=
  match n.start? with
  | none => .ok none
  | some (line, col) => do
    let endLine := match n.position.endLine with
      | .value l => if l = 0 then line else l
      | _ => line
    let endCol := n.position.endColumn.toOption.getD col
    return some ⟨line, ← b.charColumn line col, endLine, ← b.charColumn endLine endCol⟩

theorem exists_readSpan {b : Buffer} (h : b.isAssigned = true) (n : Node) :
    ∃ span, readSpan b n = .ok span := by
  unfold readSpan
  cases n.start? with
  | none => exact ⟨none, rfl⟩
  | some start =>
    obtain ⟨line, col⟩ := start
    dsimp only
    obtain ⟨startCol, hstart⟩ := b.exists_charColumn h line col
    obtain ⟨endCol, hend⟩ := b.exists_charColumn h _ _
    rw [hstart, hend]
    exact ⟨_, rfl⟩

/-- Over a buffer that was never given a source, the span of a node with a place cannot be read. -/
theorem readSpan_of_unassigned (name : String) {first line col : Int} {n : Node}
    (hstart : n.start? = some (line, col)) (hline : first ≤ line) :
    readSpan { name, firstLine := first } n = .error (.unassigned name) := by
  have hcolumn : Buffer.charColumn { name, firstLine := first } line col = .error (.unassigned name) := by
    simp only [Buffer.charColumn, Buffer.line, if_pos hline]
    rfl
  unfold readSpan
  rw [hstart]
  dsimp only
  rw [hcolumn]
  rfl

/-- The span of a node, read off the tree's text. -/
def read (t : SyntaxTree) (n : Node) : Option Span :=
  match h : readSpan t.buffer n with
  | .ok span => span
  | .error e => absurd h fun h => by
    obtain ⟨span, hspan⟩ := exists_readSpan t.assigned n
    cases h.symm.trans hspan

theorem readSpan_eq_ok_read (t : SyntaxTree) (n : Node) : readSpan t.buffer n = .ok (t.read n) := by
  obtain ⟨span, hspan⟩ := exists_readSpan t.assigned n
  unfold read
  split
  next h => exact h
  next h => cases h.symm.trans hspan

/-- The span of a node, remembered once read. -/
def spanOf (t : SyntaxTree) (n : Node) : Option Span × SyntaxTree :=
  match t.spans[n.id]? with
  | some s => (some s, t)
  | none =>
    match t.read n with
    | none => (none, t)
    | some s => (some s, { t with spans := t.spans.insert n.id s })

def isComplete (t : SyntaxTree) : Bool := t.parents.isSome

/-- Notes a node as the parent of its children. -/
def adopt (parents : Std.HashMap Nat Node) (n : Node) : Std.HashMap Nat Node :=
  n.children.foldl (fun m c => m.insert c.id n) parents

/-- Remembers all spans and parents, level by level: of several parents of a shared node the last
one counts. -/
def complete (t : SyntaxTree) : SyntaxTree :=
  match t.parents with
  | some _ => t
  | none =>
    let nodes := t.root.levels
    let t := nodes.foldl (fun t n => (t.spanOf n).2) t
    { t with parents := some (nodes.foldl adopt {}) }

/-- The parent of a node; completes the tree. -/
def parentOf (t : SyntaxTree) (n : Node) : Option Node × SyntaxTree :=
  let t := t.complete
  (t.parents.bind (·[n.id]?), t)

/-- The innermost node below the first of some nodes that holds the position. Nodes without a span
are looked into. -/
def enclosingIn (line col : Int) (t : SyntaxTree) : List Node → Option Node × SyntaxTree
  | [] => (none, t)
  | .mk id kind position children :: rest =>
    let (span, t) := t.spanOf (.mk id kind position children)
    match span with
    | some s =>
      if s.contains line col then
        match enclosingIn line col t children with
        | (some found, t) => (some found, t)
        | (none, t) => (some (.mk id kind position children), t)
      else enclosingIn line col t rest
    | none =>
      match enclosingIn line col t children with
      | (some found, t) => (some found, t)
      | (none, t) => enclosingIn line col t rest

/-- The innermost positioned node around a position, or the root. -/
def enclosing (t : SyntaxTree) (line col : Int) : Node × SyntaxTree :=
  match enclosingIn line col t t.root.children with
  | (some found, t) => (found, t)
  | (none, t) => (t.root, t)

/-- Files a comment under a node, after those already there. -/
def file (groups : List (Node × List Comment)) (n : Node) (c : Comment) :
    List (Node × List Comment) :=
  if groups.any (·.1.id == n.id) then
    groups.map fun g => if g.1.id == n.id then (g.1, g.2 ++ [c]) else g
  else groups ++ [(n, [c])]

/-- Files comments under the nodes around their starts, in order of first use. -/
def associate (t : SyntaxTree) (comments : List Comment) :
    List (Node × List Comment) × SyntaxTree :=
  comments.foldl (fun (groups, t) c =>
    let (n, t) := t.enclosing c.span.startLine c.span.startCol
    (file groups n c, t)) ([], t)

def describe (t : SyntaxTree) : String :=
  "SyntaxTree(file=" ++ t.buffer.name ++ ", root=" ++ t.root.kind ++ ")"

/-- The same tree over another text. Remembered spans stay. -/
def withBuffer (t : SyntaxTree) (b : Buffer) (assigned : b.isAssigned = true) : SyntaxTree :=
  { t with buffer := b.remember, assigned := b.isAssigned_remember.trans assigned }

end SyntaxTree

end SourceUnit
