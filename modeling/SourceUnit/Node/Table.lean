import SourceUnit.Node

/-! Nodes written as a table: each row has named fields that refer to other rows by number. -/
namespace SourceUnit

/-- What a field holds: a reference, a list that may hold some, or a plain value. -/
inductive Field where
  | ref (row : Nat)
  | list (items : List (Option Nat))
  /-- A plain value; all that matters is whether it counts as empty. -/
  | plain (empty : Bool)
deriving DecidableEq, Repr

structure Row where
  kind : String
  fields : List (String × Field) := []
  position : Position := {}

namespace Row

/-- The rows a row refers to, in the order of its fields. -/
def references (r : Row) : List Nat :=
  r.fields.flatMap fun (_, f) =>
    match f with
    | .ref i => [i]
    | .list items => items.filterMap fun i => i
    | .plain _ => []

end Row

def Field.isEmpty : Field → Bool
  | .ref _ => false
  | .list items => items.isEmpty
  | .plain empty => empty

/-- A table of rows without cycles. -/
abbrev NodeTable := Array Row

namespace NodeTable

/-- Unfolds a row; the depth bounds the length of a chain of references. -/
def unfold (t : NodeTable) : (depth : Nat) → (row : Nat) → Node
  | 0, i => .mk i "" {} []
  | depth + 1, i =>
    match t[i]? with
    | none => .mk i "" {} []
    | some r => .mk i r.kind r.position (r.references.map (unfold t depth))

/-- The node of a row. Without cycles no chain of references is longer than the table. -/
def node (t : NodeTable) (i : Nat) : Node := unfold t t.size i

/-- Whether a field of a row counts as empty; nothing if the row has no such field. -/
def isEmptyField? (t : NodeTable) (i : Nat) (field : String) : Option Bool :=
  (t[i]?).bind fun r => (r.fields.lookup field).map (·.isEmpty)

end NodeTable

end SourceUnit
