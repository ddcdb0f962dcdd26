import SourceUnit.Proofs.CommentPlacement
import SourceUnit.Proofs.Unfolding

/-! The search for the node around a position, step by step. A step goes to the first place below
the node that holds the position. Nodes without a place are looked through in depth-first order, and
left again if nothing in them holds it. The search ends where there is no step to take. -/
namespace SourceUnit

namespace Node

section Marking

variable (mark : Marking)

mutual

/-- The nearest nodes with a place below a node, in depth-first order. -/
def nearest : Node → List Node
  | mk _ _ _ children => nearestAll children

def nearestAll : List Node → List Node
  | [] => []
  | n :: ns => (if (mark n).isSome then [n] else nearest n) ++ nearestAll ns

end

def next (n : Node) : Option Node := (nearest mark n).find? (mark · == some true)

/-- `Descends mark n m`: taking steps from `n` for as long as there are any ends at `m`. -/
inductive Descends : Node → Node → Prop where
  | stop {n : Node} : next mark n = none → Descends n n
  | step {n k m : Node} : next mark n = some k → Descends k m → Descends n m

/-- `Way mark n m`: a way down from `n` to `m` on which, after `n`, every place holds the
position. -/
inductive Way : Node → Node → Prop where
  | here (n : Node) : Way n n
  | down {n c m : Node} : c ∈ n.children → mark c ≠ some false → Way c m → Way n m

variable {mark}

theorem nearestAll_eq_flatMap (ns : List Node) :
    nearestAll mark ns = ns.flatMap fun n => if (mark n).isSome then [n] else nearest mark n := by
  induction ns with
  | nil => rfl
  | cons n ns ih => rw [nearestAll, ih, List.flatMap_cons]

theorem nearest_eq (n : Node) : nearest mark n = nearestAll mark n.children := by
  cases n with
  | mk id kind position children => rw [nearest, Node.children]

theorem mem_nearest {n k : Node} : k ∈ nearest mark n ↔ Nearest mark n k := by
  constructor
  · intro h
    induction n using inductionOn with
    | step n ih =>
      rw [nearest_eq, nearestAll_eq_flatMap, List.mem_flatMap] at h
      obtain ⟨c, hc, hk⟩ := h
      cases hmark : mark c with
      | some b =>
        have hkc : k = c := by simpa [hmark] using hk
        rw [hkc]
        exact .child hc (by simp [hmark])
      | none =>
        have hkc : k ∈ nearest mark c := by simpa [hmark] using hk
        exact .through hc hmark (ih c hc hkc)
  · intro h
    induction h with
    | @child n k hk hplace =>
      rw [nearest_eq, nearestAll_eq_flatMap, List.mem_flatMap]
      exact ⟨k, hk, by simp [hplace]⟩
    | @through n c k hc hnone _ ih =>
      rw [nearest_eq, nearestAll_eq_flatMap, List.mem_flatMap]
      exact ⟨c, hc, by simpa [hnone] using ih⟩

theorem next_eq_some {n k : Node} (h : next mark n = some k) :
    Nearest mark n k ∧ mark k = some true := by
  constructor
  · exact mem_nearest.mp (List.mem_of_find?_eq_some h)
  · simpa using List.find?_some h

theorem next_eq_none {n : Node} (h : next mark n = none) : Settled mark n := by
  intro k hk hmark
  have hnot := List.find?_eq_none.mp h k (mem_nearest.mpr hk)
  simp [hmark] at hnot

/-! ### The search takes these steps -/

/-- In a list of trees, the search goes to the first nearest node that holds the position, and on
from there. -/
theorem innermost_eq_find? (ns : List Node) :
    innermost mark ns = ((nearestAll mark ns).find? (mark · == some true)).map fun k =>
      (innermost mark k.children).getD k := by
  fun_induction innermost mark ns with
  | case1 => rfl
  | case2 id kind position children rest hmark ih =>
    simp [nearestAll, hmark, Node.children]
  | case3 id kind position children rest hmark ih =>
    simp [nearestAll, hmark, ih]
  | case4 id kind position children rest hmark ihc ihr =>
    rw [nearestAll, nearest_eq, hmark, ihc, ihr, Node.children]
    simp [List.find?_append, Option.map_or]

theorem descends_innermost (n : Node) : Descends mark n ((innermost mark n.children).getD n) := by
  -- a step goes to a node properly below
  induction hsize : n.size using Nat.strongRecOn generalizing n with
  | ind size ih =>
    rw [innermost_eq_find?, ← nearest_eq]
    cases hnext : next mark n with
    | none =>
      have hfind : (nearest mark n).find? (mark · == some true) = none := hnext
      rw [hfind]
      exact .stop hnext
    | some k =>
      have hfind : (nearest mark n).find? (mark · == some true) = some k := hnext
      have hsmaller := (next_eq_some hnext).1.above.size_lt
      rw [hfind]
      exact .step hnext (ih k.size (hsize ▸ hsmaller) k rfl)

/-! ### What the steps say about their end -/

theorem Way.trans {a b c : Node} (hab : Way mark a b) (hbc : Way mark b c) : Way mark a c := by
  induction hab with
  | here n => exact hbc
  | down hchild hmark _ ih => exact .down hchild hmark (ih hbc)

variable {n m m' : Node}

theorem Descends.settled (h : Descends mark n m) : Settled mark m := by
  induction h with
  | stop hnext => exact next_eq_none hnext
  | step _ _ ih => exact ih

theorem Descends.unique (h : Descends mark n m) (h' : Descends mark n m') : m' = m := by
  induction h with
  | stop hnone =>
    cases h' with
    | stop => rfl
    | step hsome =>
      rw [hnone] at hsome
      cases hsome
  | step hsome _ ih =>
    cases h' with
    | stop hnone =>
      rw [hnone] at hsome
      cases hsome
    | step hsome' hrest =>
      rw [hsome] at hsome'
      cases hsome'
      exact ih hrest

end Marking

end Node

namespace SyntaxTree

theorem descends_enclosing {t : SyntaxTree} (hid : t.root.Identified) (line col : Int) :
    Node.Descends (t.mark line col) t.root (t.enclosing line col).1 := by
  rw [(enclosing_eq_around hid line col (.refl t)).1]
  exact Node.descends_innermost t.root

/-- Below the definition, one container holds nothing of interest and another holds the parameter
at the position. The last row stands in four places. -/
def parameters : NodeTable := #[
  { kind := "Module", fields := [("body", .list [some 1])] },
  { kind := "FunctionDef", fields := [("args", .ref 2), ("body", .list [some 7])],
    position := placeAt 1 0 2 11 },
  { kind := "arguments", fields := [("posonlyargs", .ref 3), ("args", .list [some 4, some 5])] },
  { kind := "arguments", fields := [("args", .list [some 7])] },
  { kind := "arg", fields := [("ctx", .ref 7)], position := placeAt 1 6 1 7 },
  { kind := "arguments", fields := [("args", .list [some 6])] },
  { kind := "arg", fields := [("ctx", .ref 7)], position := placeAt 2 1 2 4 },
  { kind := "Load" }]

theorem parameters_acyclic : parameters.Acyclic := by
  apply NodeTable.acyclic_of_lt
  decide

def parametersTree : SyntaxTree :=
  ofRoot { text := some "def f(a,\n bcd): pass\n".toList } (by decide) (parameters.node 0)

theorem parametersTree_mark :
    let mark := parametersTree.mark 2 2
    mark (parameters.node 1) = some true ∧ mark (parameters.node 2) = none ∧
      mark (parameters.node 3) = none ∧ mark (parameters.node 4) = some false ∧
      mark (parameters.node 5) = none ∧ mark (parameters.node 6) = some true ∧
      mark (parameters.node 7) = none := by
  simp only [mark, parametersTree, ofRoot_span?]
  decide

theorem parameters_children :
    (parameters.node 0).children = [parameters.node 1] ∧
      (parameters.node 1).children = [parameters.node 2, parameters.node 7] ∧
      (parameters.node 2).children = [parameters.node 3, parameters.node 4, parameters.node 5] ∧
      (parameters.node 3).children = [parameters.node 7] ∧
      (parameters.node 5).children = [parameters.node 6] ∧
      (parameters.node 6).children = [parameters.node 7] ∧ (parameters.node 7).children = [] := by
  have h := parameters_acyclic.children_node
  exact ⟨h 0, h 1, h 2, h 3, h 5, h 6, h 7⟩

theorem parametersTree_descends :
    Node.Descends (parametersTree.mark 2 2) parametersTree.root (parameters.node 6) := by
  have hroot : parametersTree.root = parameters.node 0 := rfl
  rw [hroot]
  apply Node.Descends.step (k := parameters.node 1)
  · simp [Node.next, Node.nearest_eq, Node.nearestAll, parameters_children, parametersTree_mark]
  apply Node.Descends.step (k := parameters.node 6)
  · simp [Node.next, Node.nearest_eq, Node.nearestAll, parameters_children, parametersTree_mark]
  apply Node.Descends.stop
  simp [Node.next, Node.nearest_eq, Node.nearestAll, parameters_children, parametersTree_mark]

theorem parametersTree_identified : parametersTree.root.Identified :=
  parameters_acyclic.identified_node 0

end SyntaxTree

end SourceUnit
