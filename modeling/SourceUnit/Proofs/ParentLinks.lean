import SourceUnit.Proofs.Unfolding
import SourceUnit.Proofs.WalkOrder

/-! Parents undo children. Completing a tree notes every node as the parent of its children, in
breadth-first order, so that of several parents the last one stays. A parent's tree is larger than
its child's: going from parent to parent never comes back, and ends at the root. -/
namespace SourceUnit

namespace Node

/-- `root.LastParent n p`: in breadth-first order, `p` is the last node with `n` for a child. -/
def LastParent (root n p : Node) : Prop :=
  ∃ before after, root.breadthFirst = before ++ p :: after ∧
    n ∈ p.children ∧ ∀ q ∈ after, n ∉ q.children

theorem mem_breadthFirst {root n : Node} : n ∈ root.breadthFirst ↔ root.Has n := by
  rw [← levels_eq_breadthFirst, mem_levels]

theorem Has.exists_parent {root n : Node} (h : root.Has n) (hne : n ≠ root) :
    ∃ p, root.Has p ∧ n ∈ p.children := by
  induction h with
  | self n => exact absurd rfl hne
  | @under root c n hc _ ih =>
    by_cases hnc : n = c
    · subst hnc
      exact ⟨root, .self root, hc⟩
    · obtain ⟨p, hp, hnp⟩ := ih hnc
      exact ⟨p, .under hc hp, hnp⟩

theorem not_mem_children_of_has {root p : Node} (h : root.Has p) : root ∉ p.children := by
  intro hmem
  have hle := h.size_le
  have hlt := size_lt_of_mem_children hmem
  omega

variable {root n p : Node}

theorem LastParent.has (h : root.LastParent n p) : root.Has p := by
  obtain ⟨before, after, horder, -⟩ := h
  apply mem_breadthFirst.mp
  rw [horder]
  exact List.mem_append_right _ List.mem_cons_self

theorem LastParent.mem_children (h : root.LastParent n p) : n ∈ p.children := by
  obtain ⟨before, after, -, hmem, -⟩ := h
  exact hmem

theorem Identified.any_children (hid : root.Identified) (hn : root.Has n) (hp : root.Has p) :
    p.children.any (·.id == n.id) = true ↔ n ∈ p.children := by
  rw [List.any_eq_true]
  constructor
  · rintro ⟨c, hc, hsame⟩
    have hcn : c = n := hid c n (hp.trans (.under hc (.self c))) hn (beq_iff_eq.mp hsame)
    rwa [← hcn]
  · intro hmem
    exact ⟨n, hmem, beq_self_eq_true n.id⟩

end Node

namespace SyntaxTree

/-! ### Who is noted -/

theorem getElem?_adopt (parents : Std.HashMap Nat Node) (n : Node) (i : Nat) :
    (adopt parents n)[i]? =
      if n.children.any (·.id == i) then some n else parents[i]? := by
  unfold adopt
  induction n.children generalizing parents with
  | nil => simp
  | cons c cs ih =>
    rw [List.foldl_cons, ih, Std.HashMap.getElem?_insert, List.any_cons]
    cases c.id == i with
    | false => simp
    | true => simp

theorem getElem?_foldl_adopt (ns : List Node) (parents : Std.HashMap Nat Node) (i : Nat) :
    (ns.foldl adopt parents)[i]? =
      (ns.reverse.find? fun p => p.children.any (·.id == i)).or parents[i]? := by
  induction ns generalizing parents with
  | nil => simp
  | cons n ns ih =>
    rw [List.foldl_cons, ih, getElem?_adopt, List.reverse_cons, List.find?_append, Option.or_assoc]
    congr 1
    cases h : n.children.any (·.id == i) with
    | false => simp [h]
    | true => simp [h]

/-- Searching from the end finds the last one. -/
theorem find?_reverse_eq_some_iff {α : Type} {xs : List α} {found : α → Bool} {x : α} :
    xs.reverse.find? found = some x ↔
      ∃ before after, xs = before ++ x :: after ∧ found x = true ∧ ∀ y ∈ after, found y = false := by
  rw [List.find?_eq_some_iff_append]
  constructor
  · rintro ⟨hx, after, before, hsplit, hafter⟩
    refine ⟨before.reverse, after.reverse, ?_, hx, ?_⟩
    · simpa using List.reverse_eq_append_iff.mp hsplit
    · intro y hy
      simpa using hafter y (List.mem_reverse.mp hy)
  · rintro ⟨before, after, rfl, hx, hafter⟩
    refine ⟨hx, after.reverse, before.reverse, by simp, ?_⟩
    intro y hy
    simpa using hafter y (List.mem_reverse.mp hy)

variable {root n p : Node}

theorem noted_eq_some_iff (hid : root.Identified) (hn : root.Has n) :
    (root.levels.foldl adopt {})[n.id]? = some p ↔ root.LastParent n p := by
  rw [getElem?_foldl_adopt, Std.HashMap.getElem?_empty, Option.or_none,
    Node.levels_eq_breadthFirst, find?_reverse_eq_some_iff, Node.LastParent]
  apply exists_congr
  intro before
  apply exists_congr
  intro after
  apply and_congr_right
  intro horder
  -- all nodes of the order stand in the tree, where a child is known by its identity
  have hchild : ∀ q ∈ p :: after, q.children.any (·.id == n.id) = true ↔ n ∈ q.children := by
    intro q hq
    apply hid.any_children hn
    rw [← Node.mem_breadthFirst, horder]
    exact List.mem_append_right before hq
  apply and_congr (hchild p List.mem_cons_self)
  apply forall₂_congr
  intro q hq
  rw [← hchild q (List.mem_cons_of_mem p hq), Bool.not_eq_true]

theorem exists_lastParent (hid : root.Identified) (hn : root.Has n) (hne : n ≠ root) :
    ∃ p, root.LastParent n p := by
  obtain ⟨q, hq, hnq⟩ := hn.exists_parent hne
  have hsome : ((root.levels.foldl adopt {})[n.id]?).isSome := by
    rw [getElem?_foldl_adopt, Option.isSome_or, Bool.or_eq_true, List.find?_isSome]
    exact .inl ⟨q, List.mem_reverse.mpr (Node.mem_levels.mpr hq), (hid.any_children hn hq).mpr hnq⟩
  obtain ⟨p, hp⟩ := Option.isSome_iff_exists.mp hsome
  exact ⟨p, (noted_eq_some_iff hid hn).mp hp⟩

/-! ### Climbing -/

theorem links_ask (t : SyntaxTree) (q : Query) : (t.ask q).2.links = t.links := by
  rcases t.ask_snd_cases q with hcompleted | ⟨ms, -, hasked⟩
  · rw [hcompleted, links_complete]
  · rw [hasked, links_asked]

theorem links_step (t : SyntaxTree) (s : Step) : (t.step s).2.links = t.links := by
  cases s with
  | ask q => exact t.links_ask q
  | complete => exact t.links_complete
  | assign raw =>
    simp only [step, reassign]
    split
    · rfl
    · rfl

/-- Who is whose parent does not change, whatever happens to the tree. -/
theorem links_run (t : SyntaxTree) (steps : List Step) : (t.run steps).2.links = t.links := by
  induction steps generalizing t with
  | nil => rfl
  | cons s steps ih => exact (ih (t.step s).2).trans (t.links_step s)

/-- Asks for the parent, then for the parent's parent, a number of times. -/
def climb (t : SyntaxTree) (n : Node) : Nat → Option Node × SyntaxTree
  | 0 => (some n, t)
  | k + 1 =>
    match t.parentOf n with
    | (none, t) => (none, t)
    | (some p, t) => t.climb p k

theorem climb_succ {t : SyntaxTree} (h : (t.parentOf n).1 = some p) (k : Nat) :
    t.climb n (k + 1) = t.complete.climb p k := by
  have hparent : t.parentOf n = (some p, t.complete) := by
    rw [← h]
    rfl
  rw [climb, hparent]

variable {t : SyntaxTree}

theorem parentOf_eq_some_iff (hlinks : t.links = root.levels.foldl adopt {})
    (hid : root.Identified) (hn : root.Has n) :
    (t.parentOf n).1 = some p ↔ root.LastParent n p := by
  rw [parentOf_fst, hlinks, noted_eq_some_iff hid hn]

theorem exists_climb (hlinks : t.links = root.levels.foldl adopt {}) (hid : root.Identified)
    (hn : root.Has n) : ∃ k, (t.climb n k).1 = some root := by
  -- every step goes to a node with a larger tree, and none is larger than the root's
  induction hgap : root.size - n.size using Nat.strongRecOn generalizing t n with
  | ind gap ih =>
    by_cases hroot : n = root
    · exact ⟨0, congrArg some hroot⟩
    · obtain ⟨p, hp⟩ := exists_lastParent hid hn hroot
      have hlarger := Node.size_lt_of_mem_children hp.mem_children
      have hbound := hp.has.size_le
      obtain ⟨k, hk⟩ := ih (root.size - p.size) (by omega)
        ((t.links_complete).trans hlinks) hp.has rfl
      refine ⟨k + 1, ?_⟩
      rw [climb_succ ((parentOf_eq_some_iff hlinks hid hn).mpr hp)]
      exact hk

/-- Whatever has been asked before, the root has no parent, and the parent of any other node is a
node that has it for a child: of several, the last one in breadth-first order. From parent to parent
one comes to the root. Where no node stands under two others, parents are exactly the inverse of
children. -/
theorem parentOf_inverts_children {b : Buffer} (hassigned : b.isAssigned = true) {root : Node}
    (hid : root.Identified) (steps : List Step) :
    let t := ((ofRoot b hassigned root).run steps).2
    (t.parentOf root).1 = none ∧
      (∀ n, root.Has n → n ≠ root →
        ∃ p, (t.parentOf n).1 = some p ∧ root.Has p ∧ n ∈ p.children) ∧
      (∀ n p, root.Has n → ((t.parentOf n).1 = some p ↔ root.LastParent n p)) ∧
      (∀ n, root.Has n → ∃ k, (t.climb n k).1 = some root) ∧
      ((∀ n p q, root.Has p → root.Has q → n ∈ p.children → n ∈ q.children → p = q) →
        ∀ n p, root.Has n → root.Has p → ((t.parentOf n).1 = some p ↔ n ∈ p.children)) := by
  intro t
  have hlinks : t.links = root.levels.foldl adopt {} := (ofRoot b hassigned root).links_run steps
  have hparent : ∀ n p, root.Has n → ((t.parentOf n).1 = some p ↔ root.LastParent n p) :=
    fun n p hn => parentOf_eq_some_iff hlinks hid hn
  have hexists : ∀ n, root.Has n → n ≠ root →
      ∃ p, (t.parentOf n).1 = some p ∧ root.Has p ∧ n ∈ p.children := by
    intro n hn hne
    obtain ⟨p, hp⟩ := exists_lastParent hid hn hne
    exact ⟨p, (hparent n p hn).mpr hp, hp.has, hp.mem_children⟩
  refine ⟨?_, hexists, hparent, fun n hn => exists_climb hlinks hid hn, ?_⟩
  · rw [Option.eq_none_iff_forall_ne_some]
    intro p hp
    have hlast := (hparent root p (.self root)).mp hp
    exact Node.not_mem_children_of_has hlast.has hlast.mem_children
  · intro hunique n p hn hp
    constructor
    · intro h
      exact ((hparent n p hn).mp h).mem_children
    · intro hmem
      have hne : n ≠ root := by
        rintro rfl
        exact Node.not_mem_children_of_has hp hmem
      obtain ⟨q, hq, hqroot, hqmem⟩ := hexists n hn hne
      rw [hq, hunique n q p hqroot hp hqmem hmem]

/-- The last row stands under the root and, further down, under the row before it. -/
def twiceHeld : NodeTable := #[
  { kind := "Module", fields := [("body", .list [some 1, some 3])] },
  { kind := "If", fields := [("test", .ref 2)] },
  { kind := "Expr", fields := [("value", .ref 3)] },
  { kind := "Name" }]

theorem twiceHeld_acyclic : twiceHeld.Acyclic := by
  apply NodeTable.acyclic_of_lt
  decide

theorem twiceHeld_breadthFirst : (twiceHeld.node 0).breadthFirst =
    [twiceHeld.node 0, twiceHeld.node 1, twiceHeld.node 3, twiceHeld.node 2, twiceHeld.node 3] := by
  have hchildren : (twiceHeld.node 0).children = [twiceHeld.node 1, twiceHeld.node 3] ∧
      (twiceHeld.node 1).children = [twiceHeld.node 2] ∧
      (twiceHeld.node 2).children = [twiceHeld.node 3] ∧ (twiceHeld.node 3).children = [] := by
    have h := twiceHeld_acyclic.children_node
    exact ⟨h 0, h 1, h 2, h 3⟩
  simp [Node.breadthFirst, Node.queueFrom, hchildren]

/-- The root was noted first, and the deeper row after it. -/
theorem parentOf_inverts_children_of_twiceHeld :
    (twiceHeld.node 0).Identified ∧
      (((ofRoot mixedBuffer rfl (twiceHeld.node 0)).run
        [.ask (.parent (twiceHeld.node 1)), .assign (.bytes [])]).2.parentOf
          (twiceHeld.node 3)).1 = some (twiceHeld.node 2) := by
  have hid := twiceHeld_acyclic.identified_node 0
  have hparents := (parentOf_inverts_children (b := mixedBuffer) rfl hid
    [.ask (.parent (twiceHeld.node 1)), .assign (.bytes [])]).2.2.1
  have hhas : (twiceHeld.node 0).Has (twiceHeld.node 3) := by
    rw [← Node.mem_breadthFirst, twiceHeld_breadthFirst]
    simp
  refine ⟨hid, (hparents _ _ hhas).mpr ?_⟩
  refine ⟨[twiceHeld.node 0, twiceHeld.node 1, twiceHeld.node 3], [twiceHeld.node 3],
    twiceHeld_breadthFirst, List.mem_singleton_self _, ?_⟩
  intro q hq hmem
  rw [List.mem_singleton.mp hq] at hmem
  cases hmem

end SyntaxTree

end SourceUnit
