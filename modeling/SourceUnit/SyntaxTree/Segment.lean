import SourceUnit.SyntaxTree

/-! The text of a node, cut from the source by its byte positions. Indices and offsets below zero
count from the end. -/
namespace SourceUnit.Segment

/-- A list index; below zero it counts from the end. -/
def index? (size : Nat) (i : Int) : Option Nat :=
  if 0 ≤ i then (if i < size then some i.toNat else none)
  else if 0 ≤ size + i then some (size + i).toNat else none

/-- A bound of a slice: missing, beyond the end, or counted from the end. -/
def bound (size : Nat) (default : Nat) : Option Int → Nat
  | none => default
  | some i => if 0 ≤ i then min i.toNat size else (size + i).toNat

/-- The part of a list between two bounds. -/
def slice {α : Type} (xs : List α) (start stop : Option Int) : List α :=
  let i := bound xs.length 0 start
  let j := bound xs.length xs.length stop
  (xs.drop i).take (j - i)

/-- The characters between two byte offsets of a line. -/
def cut (line : List Char) (start stop : Option Int) : Except Error (List Char) :=
  match Utf8.decode (slice (Utf8.encode line) start stop) with
  | .ok s => .ok s
  | .error _ => .error .splitCharacter

def lineAt (lines : List (List Char)) (i : Int) : Except Error (List Char) :=
  match (index? lines.length i).bind (lines[·]?) with
  | some l => .ok l
  | none => .error (.lineOutOfRange i)

/-- The text between two positions: lines from zero, columns in bytes. -/
def between (source : List Char) (line : Int) (col : Option Int) (endLine : Int)
    (endCol : Int) : Except Error (List Char) := do
  let lines := Text.brokenLines [] [] source
  if endLine = line then
    cut (← lineAt lines line) col (some endCol)
  else
    let first ← cut (← lineAt lines line) col none
    let last ← cut (← lineAt lines endLine) none (some endCol)
    return first ++ (slice lines (some (line + 1)) (some endLine)).flatten ++ last

/-- The text at a node's position; nothing if the position is not complete. -/
def ofPosition (source : List Char) (p : Position) : Except Error (Option (List Char)) :=
  match p.endLine, p.endColumn with
  | .value endLine, .value endCol =>
    match p.line, p.column with
    | .missing, _ => .ok none
    | .null, _ => .error .noLine
    | .value _, .missing => .ok none
    | .value line, .null => (between source (line - 1) none (endLine - 1) endCol).map some
    | .value line, .value col => (between source (line - 1) (some col) (endLine - 1) endCol).map some
  | _, _ => .ok none

end SourceUnit.Segment

namespace SourceUnit

/-- The source text of a node. -/
def SyntaxTree.textOf (t : SyntaxTree) (n : Node) : Except Error (Option (List Char)) :=
  match t.buffer.source with
  | .ok s => Segment.ofPosition s n.position
  | .error e => .error e

end SourceUnit
