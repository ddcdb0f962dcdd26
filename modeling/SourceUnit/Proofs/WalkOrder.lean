import SourceUnit.Proofs.TreeHistory

/-! Two orders of the nodes below a node. The walk keeps a stack and gives the recursive order, a
node before the trees of its children. Level order is what a queue gives. Both meet a node once for
every path that leads to it, so they are permutations of each other. -/
namespace SourceUnit

namespace Node

open scoped List

/-! ### The stack -/

theorem preorderAll_append (ms ns : List Node) :
    preorderAll (ms ++ ns) = preorderAll ms ++ preorderAll ns := by
  induction ms with
  | nil => rfl
  | cons m ms ih => simp [preorderAll, ih]

theorem preorderAll_eq_flatMap (ns : List Node) : preorderAll ns = ns.flatMap preorder := by
  induction ns with
  | nil => rfl
  | cons n ns ih => simp [preorderAll, ih]

/-- Whatever is still on the stack, its trees follow one after the other. -/
theorem walkFrom_eq (visited stack : List Node) :
    walkFrom visited stack = visited.reverse ++ preorderAll stack := by
  fun_induction walkFrom visited stack with
  | case1 visited => simp [preorderAll]
  | case2 visited n rest ih =>
    rw [ih, preorderAll_append, preorderAll, preorder_eq]
    simp

theorem walk_eq_preorder (n : Node) : n.walk = n.preorder := by
  simp [walk, walkFrom_eq, preorderAll]

/-! ### The queue -/

/-- Visits the nodes of a queue, first in, first out, after the nodes already visited. -/
def queueFrom (visited : List Node) (queue : List Node) : List Node :=
  match queue with
  | [] => visited.reverse
  | n :: rest => queueFrom (n :: visited) (rest ++ n.children)
termination_by sizes queue
decreasing_by
  rw [sizes_append, sizes, size_eq n]
  omega

/-- The nodes below a node in the order of a queue. -/
def breadthFirst (n : Node) : List Node := queueFrom [] [n]

/-- Once the nodes at the front are visited, their children wait at the end. -/
theorem queueFrom_append (visited front back : List Node) :
    queueFrom visited (front ++ back) =
      queueFrom (front.reverse ++ visited) (back ++ front.flatMap children) := by
  induction front generalizing visited back with
  | nil => simp
  | cons n front ih =>
    rw [List.cons_append, queueFrom, List.append_assoc, ih]
    simp

theorem levelsFrom_eq_queueFrom (visited level : List Node) :
    levelsFrom visited level = queueFrom visited level := by
  fun_induction levelsFrom visited level with
  | case1 visited => rw [queueFrom]
  | case2 visited n ns ih =>
    have hlevel := queueFrom_append visited (n :: ns) []
    rw [List.append_nil, List.nil_append] at hlevel
    rw [ih, hlevel]

theorem levels_eq_breadthFirst (n : Node) : n.levels = n.breadthFirst :=
  levelsFrom_eq_queueFrom [] [n]

/-- A list of trees holds its roots and the trees below them. -/
theorem preorderAll_perm (ns : List Node) :
    preorderAll ns ~ ns ++ preorderAll (ns.flatMap children) := by
  induction ns with
  | nil => rfl
  | cons n ns ih =>
    rw [preorderAll, preorder_eq, List.flatMap_cons, preorderAll_append]
    apply List.Perm.cons n
    calc preorderAll n.children ++ preorderAll ns
      _ ~ preorderAll n.children ++ (ns ++ preorderAll (ns.flatMap children)) := ih.append_left _
      _ ~ ns ++ (preorderAll n.children ++ preorderAll (ns.flatMap children)) :=
        List.perm_append_comm_assoc _ _ _

theorem levelsFrom_perm (visited level : List Node) :
    levelsFrom visited level ~ visited ++ preorderAll level := by
  fun_induction levelsFrom visited level with
  | case1 visited =>
    rw [preorderAll, List.append_nil]
    exact List.reverse_perm visited
  | case2 visited n ns ih =>
    calc levelsFrom ((n :: ns).reverse ++ visited) ((n :: ns).flatMap children)
      _ ~ (n :: ns).reverse ++ visited ++ preorderAll ((n :: ns).flatMap children) := ih
      _ ~ visited ++ (n :: ns) ++ preorderAll ((n :: ns).flatMap children) := by
        apply List.Perm.append_right
        exact ((List.reverse_perm (n :: ns)).append_right visited).trans List.perm_append_comm
      _ ~ visited ++ preorderAll (n :: ns) := by
        rw [List.append_assoc]
        exact (preorderAll_perm (n :: ns)).symm.append_left visited

theorem levels_perm_preorder (n : Node) : n.levels ~ n.preorder := by
  simpa [levels, preorderAll] using levelsFrom_perm [] [n]

/-! ### Paths -/

/-- The node at the end of a path. Each step names a child by its place among the children. -/
def follow : Node → List Nat → Option Node
  | n, [] => some n
  | n, i :: path => (n.children[i]?).bind (·.follow path)

mutual

/-- The paths that lead somewhere, in the order of the walk. -/
def paths : Node → List (List Nat)
  | mk _ _ _ children => [] :: pathsFrom 0 children

/-- Paths through nodes that are children from a place on. -/
def pathsFrom (place : Nat) : List Node → List (List Nat)
  | [] => []
  | n :: ns => n.paths.map (place :: ·) ++ pathsFrom (place + 1) ns

end

theorem paths_eq (n : Node) : n.paths = [] :: pathsFrom 0 n.children := by
  cases n with
  | mk id kind position children => rw [paths, Node.children]

theorem mem_pathsFrom {place : Nat} {ns : List Node} {path : List Nat} :
    path ∈ pathsFrom place ns ↔
      ∃ i rest n, path = (place + i) :: rest ∧ ns[i]? = some n ∧ rest ∈ n.paths := by
  induction ns generalizing place with
  | nil => simp [pathsFrom]
  | cons n ns ih =>
    have hshift (i : Nat) : place + 1 + i = place + (i + 1) := by omega
    simp only [pathsFrom, List.mem_append, List.mem_map, ih, hshift]
    constructor
    · rintro (⟨rest, hrest, rfl⟩ | ⟨i, rest, m, rfl, hm, hrest⟩)
      · exact ⟨0, rest, n, rfl, rfl, hrest⟩
      · exact ⟨i + 1, rest, m, rfl, hm, hrest⟩
    · rintro ⟨i, rest, m, rfl, hm, hrest⟩
      cases i with
      | zero =>
        cases hm
        exact .inl ⟨rest, hrest, rfl⟩
      | succ i => exact .inr ⟨i, rest, m, rfl, hm, hrest⟩

theorem mem_paths {n : Node} {path : List Nat} : path ∈ n.paths ↔ (n.follow path).isSome := by
  induction path generalizing n with
  | nil => simp [paths_eq, follow]
  | cons i path ih =>
    rw [paths_eq, follow, List.mem_cons, mem_pathsFrom]
    cases hchild : n.children[i]? with
    | none => simp [hchild]
    | some c => simp [hchild, ih]

theorem nodup_pathsFrom {ns : List Node} (h : ∀ n ∈ ns, n.paths.Nodup) (place : Nat) :
    (pathsFrom place ns).Nodup := by
  induction ns generalizing place with
  | nil => exact List.nodup_nil
  | cons n ns ih =>
    rw [pathsFrom]
    apply List.Nodup.append
    · exact (h n List.mem_cons_self).map List.cons_injective
    · exact ih (fun m hm => h m (List.mem_cons_of_mem n hm)) (place + 1)
    · -- paths through different children differ in their first step
      intro path hhere hlater
      obtain ⟨rest, -, rfl⟩ := List.mem_map.mp hhere
      obtain ⟨i, rest', m, heq, -⟩ := mem_pathsFrom.mp hlater
      have hplace := (List.cons.inj heq).1
      omega

theorem nodup_paths (n : Node) : n.paths.Nodup := by
  induction n using inductionOn with
  | step n ih =>
    rw [paths_eq, List.nodup_cons, mem_pathsFrom]
    refine ⟨?_, nodup_pathsFrom ih 0⟩
    rintro ⟨i, rest, c, heq, -⟩
    cases heq

theorem map_follow_pathsFrom {n : Node} {place : Nat} {ns : List Node}
    (hns : n.children.drop place = ns) (h : ∀ c ∈ ns, c.paths.map c.follow = c.preorder.map some) :
    (pathsFrom place ns).map n.follow = (preorderAll ns).map some := by
  induction ns generalizing place with
  | nil => rfl
  | cons c ns ih =>
    have hhere : n.children[place]? = some c := by
      rw [← List.head?_drop, hns, List.head?_cons]
    have hrest : n.children.drop (place + 1) = ns := by
      rw [← List.tail_drop, hns, List.tail_cons]
    have hchild : (c.paths.map (place :: ·)).map n.follow = c.paths.map c.follow := by
      simp [follow, hhere]
    rw [pathsFrom, preorderAll, List.map_append, List.map_append, hchild, h c List.mem_cons_self,
      ih hrest fun m hm => h m (List.mem_cons_of_mem c hm)]

/-- The walk meets the ends of all paths, path by path. -/
theorem map_follow_paths (n : Node) : n.paths.map n.follow = n.preorder.map some := by
  induction n using inductionOn with
  | step n ih =>
    rw [paths_eq, preorder_eq, List.map_cons, List.map_cons,
      map_follow_pathsFrom List.drop_zero ih]
    rfl

end Node

theorem SyntaxTree.parents_complete (t : SyntaxTree) :
    t.complete.parents = t.parents.or (some (t.root.breadthFirst.foldl adopt {})) := by
  rw [← Node.levels_eq_breadthFirst]
  cases hparents : t.parents with
  | none => simp [complete_eq hparents]
  | some parents => simp [complete_eq_self hparents, hparents]

/-- The walk from a node, or from the root if none is given, is the recursive order: the node, then
the orders of its children one after the other. It has an entry for every path from the node, which
is the node that the path leads to. Completing a tree goes over its nodes by a queue, and meets each
of them as often as the walk does. -/
theorem SyntaxTree.walk_is_recursive_order (t : SyntaxTree) (n : Node) :
    t.ask (.walk (some n)) = (.nodes n.preorder, t) ∧
      t.ask (.walk none) = (.nodes t.root.preorder, t) ∧
      n.preorder = n :: n.children.flatMap Node.preorder ∧
      (n.paths.Nodup ∧ (∀ path, path ∈ n.paths ↔ (n.follow path).isSome) ∧
        n.preorder.map some = n.paths.map n.follow) ∧
      t.complete.parents = t.parents.or (some (t.root.breadthFirst.foldl adopt {})) ∧
      t.root.breadthFirst.Perm t.root.preorder := by
  have hask (start : Option Node) :
      t.ask (.walk start) = (.nodes (start.getD t.root).preorder, t) := by
    rw [ask, Node.walk_eq_preorder]
  have hmet : t.root.breadthFirst.Perm t.root.preorder := by
    rw [← Node.levels_eq_breadthFirst]
    exact t.root.levels_perm_preorder
  refine ⟨hask (some n), hask none, ?_, ⟨n.nodup_paths, ?_, ?_⟩, t.parents_complete, hmet⟩
  · rw [← Node.preorderAll_eq_flatMap, ← Node.preorder_eq]
  · intro path
    exact Node.mem_paths
  · exact n.map_follow_paths.symm

end SourceUnit
