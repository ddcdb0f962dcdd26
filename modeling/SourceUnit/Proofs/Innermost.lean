import Mathlib.Data.List.Nodup
import SourceUnit.Node

/-! The descent to the innermost marked node. A marking says of each node that it has a place that
holds a position, that its place does not hold it, or that it has no place. The descent goes into
the first marked node it meets and looks through nodes without a place; it never looks below a
place that does not hold the position. -/
namespace SourceUnit.Node

/-- `n.Has m`: the node `m` stands in the tree of `n`. -/
inductive Has : Node → Node → Prop where
  | self (n : Node) : Has n n
  | under {n c m : Node} : c ∈ n.children → Has c m → Has n m

/-- `n.Above m`: the node `m` stands properly below `n`. -/
def Above (n m : Node) : Prop := ∃ c ∈ n.children, c.Has m

/-- A node is known by its identity throughout a tree. Trees without shared nodes and trees where
a shared node is repeated whole are of this kind. -/
def Identified (root : Node) : Prop := ∀ m n, root.Has m → root.Has n → m.id = n.id → m = n

theorem Has.trans {a b c : Node} (hab : a.Has b) (hbc : b.Has c) : a.Has c := by
  induction hab with
  | self n => exact hbc
  | under hchild _ ih => exact .under hchild (ih hbc)

theorem Above.has {n m : Node} (h : n.Above m) : n.Has m := by
  obtain ⟨c, hc, hm⟩ := h
  exact .under hc hm

theorem Above.trans_has {a b c : Node} (hab : a.Above b) (hbc : b.Has c) : a.Above c := by
  obtain ⟨d, hd, hdb⟩ := hab
  exact ⟨d, hd, hdb.trans hbc⟩

theorem Has.trans_above {a b c : Node} (hab : a.Has b) (hbc : b.Above c) : a.Above c := by
  cases hab with
  | self n => exact hbc
  | under hchild hrest => exact ⟨_, hchild, hrest.trans hbc.has⟩

mutual

def preorder : Node → List Node
  | mk id kind position children => mk id kind position children :: preorderAll children

def preorderAll : List Node → List Node
  | [] => []
  | n :: ns => preorder n ++ preorderAll ns

end

theorem mem_preorderAll {m : Node} {ns : List Node} :
    m ∈ preorderAll ns ↔ ∃ n ∈ ns, m ∈ preorder n := by
  induction ns with
  | nil => simp [preorderAll]
  | cons n ns ih => simp [preorderAll, ih]

theorem preorder_eq (n : Node) : n.preorder = n :: preorderAll n.children := by
  cases n with
  | mk id kind position children => rw [preorder, Node.children]

theorem size_lt_of_mem_children {n c : Node} (h : c ∈ n.children) : c.size < n.size := by
  have hsizes : ∀ ns : List Node, c ∈ ns → c.size ≤ sizes ns := by
    intro ns hc
    induction ns with
    | nil => cases hc
    | cons m ms ih =>
      rw [sizes]
      rcases List.mem_cons.mp hc with rfl | hc
      · omega
      · have := ih hc
        omega
  rw [size_eq n]
  have := hsizes _ h
  omega

theorem Has.size_le {n m : Node} (h : n.Has m) : m.size ≤ n.size := by
  induction h with
  | self n => exact Nat.le_refl n.size
  | under hc _ ih => exact Nat.le_of_lt (Nat.lt_of_le_of_lt ih (size_lt_of_mem_children hc))

theorem Above.size_lt {n m : Node} (h : n.Above m) : m.size < n.size := by
  obtain ⟨c, hc, hcm⟩ := h
  exact Nat.lt_of_le_of_lt hcm.size_le (size_lt_of_mem_children hc)

@[elab_as_elim]
theorem inductionOn {motive : Node → Prop} (n : Node)
    (step : ∀ n, (∀ c ∈ n.children, motive c) → motive n) : motive n := by
  induction hsize : n.size using Nat.strongRecOn generalizing n with
  | ind size ih =>
    apply step
    intro c hc
    exact ih c.size (hsize ▸ size_lt_of_mem_children hc) c rfl

theorem mem_preorder {n m : Node} : m ∈ n.preorder ↔ n.Has m := by
  constructor
  · intro h
    induction n using inductionOn with
    | step n ih =>
      rw [preorder_eq] at h
      rcases List.mem_cons.mp h with rfl | h
      · exact .self m
      · obtain ⟨c, hc, hm⟩ := mem_preorderAll.mp h
        exact .under hc (ih c hc hm)
  · intro h
    induction h with
    | self n =>
      rw [preorder_eq]
      exact List.mem_cons_self
    | under hc _ ih =>
      rw [preorder_eq]
      exact List.mem_cons_of_mem _ (mem_preorderAll.mpr ⟨_, hc, ih⟩)

theorem has_iff {n m : Node} : n.Has m ↔ m = n ∨ ∃ c ∈ n.children, c.Has m := by
  constructor
  · intro h
    cases h with
    | self => exact .inl rfl
    | under hc hm => exact .inr ⟨_, hc, hm⟩
  · rintro (rfl | ⟨c, hc, hm⟩)
    · exact .self m
    · exact .under hc hm

theorem mem_levelsFrom {visited level : List Node} {m : Node} :
    m ∈ levelsFrom visited level ↔ m ∈ visited ∨ ∃ n ∈ level, n.Has m := by
  fun_induction levelsFrom visited level with
  | case1 visited => simp
  | case2 visited n ns ih =>
    have hnext : (∃ k ∈ n :: ns, k.Has m) ↔
        m ∈ n :: ns ∨ ∃ c ∈ (n :: ns).flatMap children, c.Has m := by
      constructor
      · rintro ⟨k, hk, hm⟩
        rcases has_iff.mp hm with rfl | ⟨c, hc, hcm⟩
        · exact .inl hk
        · exact .inr ⟨c, List.mem_flatMap.mpr ⟨k, hk, hc⟩, hcm⟩
      · rintro (hm | ⟨c, hc, hcm⟩)
        · exact ⟨m, hm, .self m⟩
        · obtain ⟨k, hk, hck⟩ := List.mem_flatMap.mp hc
          exact ⟨k, hk, .under hck hcm⟩
    rw [ih, hnext, List.mem_append, List.mem_reverse, or_comm (a := m ∈ n :: ns), or_assoc]

/-- Level order meets the nodes of the tree and no others. -/
theorem mem_levels {n m : Node} : m ∈ n.levels ↔ n.Has m := by
  simp [levels, mem_levelsFrom]

/-- No node stands in two places. -/
def Unshared (root : Node) : Prop := (root.preorder.map id).Nodup

theorem Unshared.identified {root : Node} (h : root.Unshared) : root.Identified := by
  intro m n hm hn hid
  exact List.inj_on_of_nodup_map h (mem_preorder.mpr hm) (mem_preorder.mpr hn) hid

section Marking

/-- A marking: nothing for a node without a place, else whether its place holds the position. -/
abbrev Marking := Node → Option Bool

variable (mark : Marking)

/-- `Nearest mark n k`: `k` has a place, and between `n` and `k` there are only nodes without one. -/
inductive Nearest : Node → Node → Prop where
  | child {n k : Node} : k ∈ n.children → (mark k).isSome → Nearest n k
  | through {n c k : Node} : c ∈ n.children → mark c = none → Nearest c k → Nearest n k

theorem sizes_rest_lt (n : Node) (rest : List Node) : sizes rest < sizes (n :: rest) := by
  rw [sizes, size_eq]
  omega

theorem sizes_children_lt (id : Nat) (kind : String) (position : Position)
    (children rest : List Node) : sizes children < sizes (.mk id kind position children :: rest) := by
  rw [sizes, size]
  omega

/-- The innermost marked node in the first tree that has one. -/
def innermost : List Node → Option Node
  | [] => none
  | .mk id kind position children :: rest =>
    match mark (.mk id kind position children) with
    | some true => some ((innermost children).getD (.mk id kind position children))
    | some false => innermost rest
    | none => (innermost children).or (innermost rest)
termination_by ns => sizes ns
decreasing_by
  · exact sizes_children_lt id kind position children rest
  · exact sizes_rest_lt (.mk id kind position children) rest
  · exact sizes_children_lt id kind position children rest
  · exact sizes_rest_lt (.mk id kind position children) rest

variable {mark}

theorem Nearest.above {n k : Node} (h : Nearest mark n k) : n.Above k := by
  induction h with
  | child hk _ => exact ⟨_, hk, .self _⟩
  | through hc _ _ ih => exact ⟨_, hc, ih.has⟩

theorem Nearest.placed {n k : Node} (h : Nearest mark n k) : (mark k).isSome := by
  induction h with
  | child _ hk => exact hk
  | through _ _ _ ih => exact ih

/-- On the way down to a node with a place, the first node with a place is a nearest one. -/
theorem exists_nearest {n m : Node} (h : n.Above m) (hm : (mark m).isSome) :
    ∃ k, Nearest mark n k ∧ k.Has m := by
  obtain ⟨c, hc, hcm⟩ := h
  induction hcm generalizing n with
  | self m => exact ⟨m, .child hc hm, .self m⟩
  | @under c d m hd hdm ih =>
    cases hmark : mark c with
    | some b => exact ⟨c, .child hc (by simp [hmark]), .under hd hdm⟩
    | none =>
      obtain ⟨k, hk, hkm⟩ := ih hm hd
      exact ⟨k, .through hc hmark hk, hkm⟩

def Settled (mark : Marking) (n : Node) : Prop := ∀ k, Nearest mark n k → mark k ≠ some true

/-- A list of trees in which the descent finds nothing. -/
def Barren (mark : Marking) (ns : List Node) : Prop :=
  ∀ n ∈ ns, mark n ≠ some true ∧ (mark n = none → Settled mark n)

theorem Barren.settled {n : Node} (h : Barren mark n.children) : Settled mark n := by
  intro k hk
  cases hk with
  | child hmem _ => exact (h k hmem).1
  | through hmem hnone hrest => exact (h _ hmem).2 hnone k hrest

theorem innermost_eq_none {ns : List Node} (h : innermost mark ns = none) : Barren mark ns := by
  fun_induction innermost mark ns with
  | case1 => simp [Barren]
  | case2 id kind position children rest hmark => simp at h
  | case3 id kind position children rest hmark ih =>
    intro n hn
    rcases List.mem_cons.mp hn with rfl | hn
    · simp [hmark]
    · exact ih h n hn
  | case4 id kind position children rest hmark ihc ihr =>
    obtain ⟨hchildren, hrest⟩ := Option.or_eq_none_iff.mp h
    intro n hn
    rcases List.mem_cons.mp hn with rfl | hn
    · refine ⟨by simp [hmark], fun _ => ?_⟩
      exact Barren.settled (ihc hchildren)
    · exact ihr hrest n hn

theorem innermost_eq_some {ns : List Node} {m : Node} (h : innermost mark ns = some m) :
    (∃ n ∈ ns, n.Has m) ∧ mark m = some true ∧ Settled mark m := by
  fun_induction innermost mark ns with
  | case1 => cases h
  | case2 id kind position children rest hmark ih =>
    cases hchildren : innermost mark children with
    | none =>
      rw [hchildren] at h
      cases h
      exact ⟨⟨_, List.mem_cons_self, .self _⟩, hmark, (innermost_eq_none hchildren).settled⟩
    | some found =>
      rw [hchildren] at h
      cases h
      obtain ⟨⟨c, hc, hcm⟩, hrest⟩ := ih hchildren
      exact ⟨⟨_, List.mem_cons_self, .under hc hcm⟩, hrest⟩
  | case3 id kind position children rest hmark ih =>
    obtain ⟨⟨n, hn, hnm⟩, hrest⟩ := ih h
    exact ⟨⟨n, List.mem_cons_of_mem _ hn, hnm⟩, hrest⟩
  | case4 id kind position children rest hmark ihc ihr =>
    cases hchildren : innermost mark children with
    | none =>
      rw [hchildren, Option.none_or] at h
      obtain ⟨⟨n, hn, hnm⟩, hrest⟩ := ihr h
      exact ⟨⟨n, List.mem_cons_of_mem _ hn, hnm⟩, hrest⟩
    | some found =>
      rw [hchildren, Option.some_or] at h
      cases h
      obtain ⟨⟨c, hc, hcm⟩, hrest⟩ := ihc hchildren
      exact ⟨⟨_, List.mem_cons_self, .under hc hcm⟩, hrest⟩

/-- The descent depends only on the marks of nodes it can meet. -/
theorem innermost_congr {mark' : Marking} {ns : List Node}
    (h : ∀ n ∈ ns, ∀ m, n.Has m → mark' m = mark m) : innermost mark' ns = innermost mark ns := by
  have hdown {id kind position children rest}
      (h : ∀ n ∈ mk id kind position children :: rest, ∀ m, n.Has m → mark' m = mark m) :
      ∀ c ∈ children, ∀ m, c.Has m → mark' m = mark m := fun c hc m hm =>
    h _ List.mem_cons_self m (.under hc hm)
  have hnext {n : Node} {rest : List Node} (h : ∀ k ∈ n :: rest, ∀ m, k.Has m → mark' m = mark m) :
      ∀ k ∈ rest, ∀ m, k.Has m → mark' m = mark m := fun k hk =>
    h k (List.mem_cons_of_mem _ hk)
  fun_induction innermost mark ns with
  | case1 => rw [innermost]
  | case2 id kind position children rest hmark ih =>
    rw [innermost, h _ List.mem_cons_self _ (.self _), hmark, ih (hdown h)]
  | case3 id kind position children rest hmark ih =>
    rw [innermost, h _ List.mem_cons_self _ (.self _), hmark, ih (hnext h)]
  | case4 id kind position children rest hmark ihc ihr =>
    rw [innermost, h _ List.mem_cons_self _ (.self _), hmark, ihc (hdown h), ihr (hnext h)]

end Marking

end SourceUnit.Node
