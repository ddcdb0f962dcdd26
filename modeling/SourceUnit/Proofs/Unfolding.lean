import Mathlib.Data.Finset.Card
import Mathlib.Logic.Relation
import SourceUnit.Node.Table
import SourceUnit.Proofs.Innermost

/-! A table without cycles is a graph of nodes with sharing. Unfolding it repeats a shared row whole
wherever it is referred to, so throughout the unfolded tree a node is known by its row. -/
namespace SourceUnit.NodeTable

def Refers (t : NodeTable) (i j : Nat) : Prop := ∃ r, t[i]? = some r ∧ j ∈ r.references

/-- No row is reached from itself along references. -/
def Acyclic (t : NodeTable) : Prop := ∀ i, ¬Relation.TransGen t.Refers i i

theorem acyclic_of_lt {t : NodeTable}
    (h : ∀ i (hi : i < t.size), ∀ j ∈ t[i].references, i < j) : t.Acyclic := by
  have hstep : ∀ i j, t.Refers i j → i < j := by
    rintro i j ⟨r, hr, hj⟩
    obtain ⟨hi, rfl⟩ := Array.getElem?_eq_some_iff.mp hr
    exact h i hi j hj
  intro i hi
  have hlt := Relation.TransGen.trans_induction_on (motive := fun {a b} _ => a < b) hi
    (fun hab => hstep _ _ hab) (fun _ _ hab hbc => Nat.lt_trans hab hbc)
  exact Nat.lt_irrefl i hlt

open Classical in
/-- The rows that a row reaches. -/
noncomputable def reached (t : NodeTable) (i : Nat) : Finset Nat :=
  (Finset.range t.size).filter fun j => Relation.TransGen t.Refers i j

variable {t : NodeTable}

theorem mem_reached {i j : Nat} :
    j ∈ t.reached i ↔ j < t.size ∧ Relation.TransGen t.Refers i j := by
  simp [reached]

/-- A chain of references never comes back, so it is shorter than the table. -/
theorem Acyclic.card_reached_lt_size (h : t.Acyclic) {i : Nat} (hi : i < t.size) :
    (t.reached i).card < t.size := by
  have hproper : t.reached i ⊂ Finset.range t.size := by
    refine ⟨fun j hj => Finset.mem_range.mpr (mem_reached.mp hj).1, fun hall => ?_⟩
    exact h i (mem_reached.mp (hall (Finset.mem_range.mpr hi))).2
  simpa using Finset.card_lt_card hproper

theorem Acyclic.card_reached_lt (h : t.Acyclic) {i j : Nat} (hij : t.Refers i j)
    (hj : j < t.size) : (t.reached j).card < (t.reached i).card := by
  apply Finset.card_lt_card
  refine ⟨fun k hk => ?_, fun hall => ?_⟩
  · obtain ⟨hsize, hjk⟩ := mem_reached.mp hk
    exact mem_reached.mpr ⟨hsize, hjk.head hij⟩
  · exact h j (mem_reached.mp (hall (mem_reached.mpr ⟨hj, .single hij⟩))).2

/-- A depth at which a row is unfolded to the end. -/
def Deep (t : NodeTable) (depth i : Nat) : Prop := i < t.size → (t.reached i).card < depth

theorem Acyclic.deep_size (h : t.Acyclic) (i : Nat) : t.Deep t.size i := h.card_reached_lt_size

theorem Acyclic.deep_of_refers (h : t.Acyclic) {depth i j : Nat} (hdeep : t.Deep (depth + 1) i)
    (hij : t.Refers i j) : t.Deep depth j := by
  intro hj
  have hi : i < t.size := by
    obtain ⟨r, hr, -⟩ := hij
    exact (Array.getElem?_eq_some_iff.mp hr).1
  have hfall := h.card_reached_lt hij hj
  have hbound := hdeep hi
  omega

theorem unfold_of_size_le (depth : Nat) {i : Nat} (hi : t.size ≤ i) :
    t.unfold depth i = .mk i "" {} [] := by
  have hnone : t[i]? = none := Array.getElem?_eq_none hi
  cases depth with
  | zero => rfl
  | succ depth => rw [unfold, hnone]

theorem unfold_row (depth : Nat) {i : Nat} {r : Row} (hrow : t[i]? = some r) :
    t.unfold (depth + 1) i = .mk i r.kind r.position (r.references.map (t.unfold depth)) := by
  rw [unfold, hrow]

theorem id_unfold (depth i : Nat) : (t.unfold depth i).id = i := by
  cases depth with
  | zero => rfl
  | succ depth =>
    rw [unfold]
    cases t[i]? with
    | none => rfl
    | some r => rfl

/-- Unfolding deeper than needed changes nothing. -/
theorem Acyclic.unfold_eq (h : t.Acyclic) {depth depth' i : Nat} (hdeep : t.Deep depth i)
    (hdeep' : t.Deep depth' i) : t.unfold depth i = t.unfold depth' i := by
  induction depth generalizing depth' i with
  | zero =>
    have hi : t.size ≤ i := Nat.le_of_not_lt fun hi => Nat.not_lt_zero _ (hdeep hi)
    rw [unfold_of_size_le 0 hi, unfold_of_size_le depth' hi]
  | succ depth ih =>
    by_cases hi : i < t.size
    · obtain ⟨depth', rfl⟩ : ∃ d, depth' = d + 1 :=
        Nat.exists_eq_succ_of_ne_zero (Nat.ne_zero_of_lt (hdeep' hi))
      have hrow : t[i]? = some t[i] := Array.getElem?_eq_getElem hi
      rw [unfold_row depth hrow, unfold_row depth' hrow]
      congr 1
      apply List.map_congr_left
      intro j hj
      have hij : t.Refers i j := ⟨t[i], hrow, hj⟩
      exact ih (h.deep_of_refers hdeep hij) (h.deep_of_refers hdeep' hij)
    · rw [unfold_of_size_le (depth + 1) (Nat.le_of_not_lt hi),
        unfold_of_size_le depth' (Nat.le_of_not_lt hi)]

/-- The children of a row are the rows it refers to. -/
theorem Acyclic.children_node (h : t.Acyclic) (i : Nat) :
    (t.node i).children = ((t[i]?).elim [] Row.references).map t.node := by
  cases hrow : t[i]? with
  | none =>
    rw [node, unfold_of_size_le t.size (Array.getElem?_eq_none_iff.mp hrow)]
    rfl
  | some r =>
    obtain ⟨depth, hsize⟩ : ∃ depth, t.size = depth + 1 := by
      have hi := (Array.getElem?_eq_some_iff.mp hrow).1
      exact Nat.exists_eq_succ_of_ne_zero (Nat.ne_zero_of_lt hi)
    have hdeep := h.deep_size i
    rw [hsize] at hdeep
    rw [node, hsize, unfold_row depth hrow]
    apply List.map_congr_left
    intro j hj
    exact h.unfold_eq (h.deep_of_refers hdeep ⟨r, hrow, hj⟩) (h.deep_size j)

/-- Wherever a row turns up in an unfolded tree, it is the node of that row. -/
theorem Acyclic.eq_node_of_has (h : t.Acyclic) {i : Nat} {m : Node} (hm : (t.node i).Has m) :
    m = t.node m.id := by
  generalize hn : t.node i = n at hm
  induction hm generalizing i with
  | self n =>
    rw [← hn]
    exact congrArg t.node (id_unfold t.size i).symm
  | under hc _ ih =>
    rw [← hn, h.children_node] at hc
    obtain ⟨j, -, hj⟩ := List.mem_map.mp hc
    exact ih hj

theorem Acyclic.identified_node (h : t.Acyclic) (i : Nat) : (t.node i).Identified := by
  intro m n hm hn heq
  rw [h.eq_node_of_has hm, h.eq_node_of_has hn, heq]

end SourceUnit.NodeTable
