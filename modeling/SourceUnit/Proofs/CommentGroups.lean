import SourceUnit.Proofs.Descent

/-! Filing comments is a partition that keeps order. A node's group is the sublist of the comments
that belong to the node, and groups stand in the order in which their nodes are first used. -/
namespace SourceUnit.SyntaxTree

/-! ### Order of first use -/

/-- The keys are the places that have been used, in the order of their first use. -/
structure FirstUse (keys places : List Nat) : Prop where
  order : keys.Pairwise fun i j => places.idxOf i < places.idxOf j
  mem_iff : ∀ i, i ∈ keys ↔ i ∈ places

theorem FirstUse.nodup {keys places : List Nat} (h : FirstUse keys places) : keys.Nodup := by
  apply h.order.imp
  intro i j hlt heq
  rw [heq] at hlt
  exact Nat.lt_irrefl _ hlt

/-- A place that is used again changes nothing; a new one goes to the end. -/
theorem FirstUse.use {keys places : List Nat} (h : FirstUse keys places) (i : Nat) :
    FirstUse (if i ∈ keys then keys else keys ++ [i]) (places ++ [i]) := by
  have hold : keys.Pairwise fun j k => (places ++ [i]).idxOf j < (places ++ [i]).idxOf k := by
    apply h.order.imp_of_mem
    intro j k hj hk hlt
    rwa [List.idxOf_append_of_mem ((h.mem_iff j).mp hj),
      List.idxOf_append_of_mem ((h.mem_iff k).mp hk)]
  split
  · rename_i hmem
    refine ⟨hold, fun j => ?_⟩
    rw [List.mem_append, List.mem_singleton, h.mem_iff]
    constructor
    · exact .inl
    · rintro (hj | rfl)
      · exact hj
      · exact (h.mem_iff j).mp hmem
  · rename_i hnew
    have hnew' : i ∉ places := fun hmem => hnew ((h.mem_iff i).mpr hmem)
    refine ⟨?_, fun j => ?_⟩
    · rw [List.pairwise_append]
      refine ⟨hold, List.pairwise_singleton _ i, ?_⟩
      intro j hj k hk
      have hj' := (h.mem_iff j).mp hj
      rw [List.mem_singleton.mp hk, List.idxOf_append_of_mem hj',
        List.idxOf_append_of_notMem hnew']
      exact Nat.lt_of_lt_of_le (List.idxOf_lt_length_of_mem hj') (Nat.le_add_right _ _)
    · rw [List.mem_append, List.mem_append, h.mem_iff]

/-- Lists cut up by distinct keys that cover all places make up the whole. -/
theorem flatMap_filter_perm {α : Type} {keys : List Nat} (place : α → Nat) (hkeys : keys.Nodup)
    {xs : List α} (hcover : ∀ x ∈ xs, place x ∈ keys) :
    (keys.flatMap fun i => xs.filter (place · == i)).Perm xs := by
  induction keys generalizing xs with
  | nil =>
    cases xs with
    | nil => simp
    | cons x xs => exact absurd (hcover x List.mem_cons_self) List.not_mem_nil
  | cons i keys ih =>
    -- the first key takes out its own, and the others find theirs in what is left
    obtain ⟨hi, hkeys⟩ := List.nodup_cons.mp hkeys
    have hrest : ∀ x ∈ xs.filter (!place · == i), place x ∈ keys := by
      intro x hx
      obtain ⟨hmem, hne⟩ := List.mem_filter.mp hx
      have hplace := hcover x hmem
      simp_all
    have hothers : (keys.flatMap fun j => xs.filter (place · == j)) =
        keys.flatMap fun j => (xs.filter (!place · == i)).filter (place · == j) := by
      apply List.flatMap_congr
      intro j hj
      rw [List.filter_filter]
      apply List.filter_congr
      intro x _
      by_cases hx : place x = j
      · subst hx
        have hne : ¬place x = i := fun heq => hi (heq ▸ hj)
        simp [hne]
      · simp [hx]
    rw [List.flatMap_cons, hothers]
    exact ((ih hkeys hrest).append_left _).trans (List.filter_append_perm (place · == i) xs)

/-! ### Groups -/

def keyIds (groups : List (Node × List Comment)) : List Nat := groups.map (·.1.id)

theorem keyIds_file (groups : List (Node × List Comment)) (n : Node) (c : Comment) :
    keyIds (file groups n c) =
      if n.id ∈ keyIds groups then keyIds groups else keyIds groups ++ [n.id] := by
  have hany : groups.any (·.1.id == n.id) = true ↔ n.id ∈ keyIds groups := by
    simp [keyIds]
  unfold file
  simp only [hany]
  split
  · unfold keyIds
    rw [List.map_map]
    apply List.map_congr_left
    intro g _
    by_cases hg : g.1.id = n.id
    · simp [hg]
    · simp [hg]
  · simp [keyIds]

variable {t : SyntaxTree}

theorem FirstUse.foldl {groups : List (Node × List Comment)} {done : List Nat}
    (h : FirstUse (keyIds groups) done) (comments : List Comment) :
    FirstUse (keyIds (comments.foldl (fun groups c => file groups (t.placeOf c) c) groups))
      (done ++ comments.map fun c => (t.placeOf c).id) := by
  induction comments generalizing groups done with
  | nil => simpa using h
  | cons c comments ih =>
    have hnext := h.use (t.placeOf c).id
    rw [← keyIds_file groups (t.placeOf c) c] at hnext
    simpa using ih hnext

theorem firstUse_associate (hid : t.root.Identified) (comments : List Comment) :
    FirstUse (keyIds (t.associate comments).1) (comments.map fun c => (t.placeOf c).id) := by
  have hstart : FirstUse (keyIds []) [] := ⟨List.Pairwise.nil, fun _ => Iff.rfl⟩
  rw [associate_fst hid]
  exact hstart.foldl comments

/-! ### What the groups hold -/

section Groups

open scoped Classical

variable {groups : List (Node × List Comment)} {comments : List Comment}

theorem placeOf_id_beq (hid : t.root.Identified) {k : Node} (hk : t.root.Has k) (c : Comment) :
    ((t.placeOf c).id == k.id) = decide (t.placeOf c = k) := by
  rw [Bool.eq_iff_iff, beq_iff_eq, decide_eq_true_iff]
  constructor
  · exact hid _ _ placeOf_has hk
  · exact congrArg Node.id

theorem Filed.snd_eq_filter (h : t.Filed groups comments) (hid : t.root.Identified)
    {g : Node × List Comment} (hg : g ∈ groups) :
    g.2 = comments.filter (t.placeOf · = g.1) := by
  rw [h.members g hg]
  apply List.filter_congr
  intro c _
  exact placeOf_id_beq hid (h.known g hg) c

theorem Filed.mem_groups_iff (h : t.Filed groups comments) (hid : t.root.Identified)
    (hfirst : FirstUse (keyIds groups) (comments.map fun c => (t.placeOf c).id))
    (k : Node) (cs : List Comment) :
    (k, cs) ∈ groups ↔ cs ≠ [] ∧ cs = comments.filter (t.placeOf · = k) := by
  constructor
  · intro hmem
    have hcs : cs = comments.filter (t.placeOf · = k) := h.snd_eq_filter hid hmem
    refine ⟨?_, hcs⟩
    -- a key is there because some comment went to it
    have hused := (hfirst.mem_iff k.id).mp (List.mem_map.mpr ⟨_, hmem, rfl⟩)
    obtain ⟨c, hc, hplace⟩ := List.mem_map.mp hused
    have hin : c ∈ cs := by
      rw [hcs, List.mem_filter, ← placeOf_id_beq hid (h.known _ hmem)]
      exact ⟨hc, beq_iff_eq.mpr hplace⟩
    exact List.ne_nil_of_mem hin
  · rintro ⟨hne, rfl⟩
    obtain ⟨c, hc⟩ := List.exists_mem_of_ne_nil _ hne
    obtain ⟨hmem, hk⟩ := List.mem_filter.mp hc
    obtain ⟨g, hg, hcg⟩ := h.exists_group hmem
    have hgk : g.1 = k := (h.eq_placeOf hid hg hcg).trans (of_decide_eq_true hk)
    have hentry : g = (k, comments.filter (t.placeOf · = k)) :=
      Prod.ext hgk (by rw [h.snd_eq_filter hid hg, hgk])
    rwa [← hentry]

theorem Filed.existsUnique_group (h : t.Filed groups comments) (hid : t.root.Identified)
    {c : Comment} (hc : c ∈ comments) : ∃! g, g ∈ groups ∧ c ∈ g.2 := by
  obtain ⟨g, hg, hcg⟩ := h.exists_group hc
  refine ⟨g, ⟨hg, hcg⟩, ?_⟩
  rintro g' ⟨hg', hcg'⟩
  have hnode : g'.1 = g.1 := (h.eq_placeOf hid hg' hcg').trans (h.eq_placeOf hid hg hcg).symm
  apply Prod.ext hnode
  rw [h.snd_eq_filter hid hg, h.snd_eq_filter hid hg', hnode]

theorem Filed.flatMap_perm (h : t.Filed groups comments)
    (hfirst : FirstUse (keyIds groups) (comments.map fun c => (t.placeOf c).id)) :
    (groups.flatMap (·.2)).Perm comments := by
  have hparts : groups.flatMap (·.2) =
      (keyIds groups).flatMap fun i => comments.filter fun c => (t.placeOf c).id == i := by
    rw [keyIds, List.flatMap_map]
    exact List.flatMap_congr fun g hg => h.members g hg
  rw [hparts]
  apply flatMap_filter_perm _ hfirst.nodup
  intro c hc
  exact (hfirst.mem_iff _).mpr (List.mem_map.mpr ⟨c, hc, rfl⟩)

theorem Filed.pairwise_findIdx (h : t.Filed groups comments) (hid : t.root.Identified)
    (hfirst : FirstUse (keyIds groups) (comments.map fun c => (t.placeOf c).id)) :
    groups.Pairwise fun g g' =>
      comments.findIdx (t.placeOf · = g.1) < comments.findIdx (t.placeOf · = g'.1) := by
  have hindex : ∀ g ∈ groups, (comments.map fun c => (t.placeOf c).id).idxOf g.1.id =
      comments.findIdx (t.placeOf · = g.1) := by
    intro g hg
    rw [List.idxOf, List.findIdx_map]
    congr 1
    funext c
    exact placeOf_id_beq hid (h.known g hg) c
  apply (List.pairwise_map.mp hfirst.order).imp_of_mem
  intro g g' hg hg' hlt
  rwa [hindex g hg, hindex g' hg'] at hlt

/-- Every node that comments belong to has one group, and no other node has one. Groups stand in the
order of the first comment in them, and a group holds the comments of its node as they come, as
often as they come. So each comment is in one group, and all groups together are the comments. -/
theorem associate_partitions_in_order (t : SyntaxTree) (hid : t.root.Identified)
    (comments : List Comment) :
    let place (c : Comment) := (t.enclosing c.span.startLine c.span.startCol).1
    let groups := (t.associate comments).1
    (groups.map (·.1.id)).Nodup ∧
      groups.Pairwise (fun g g' =>
        comments.findIdx (place · = g.1) < comments.findIdx (place · = g'.1)) ∧
      (∀ k cs, (k, cs) ∈ groups ↔ cs ≠ [] ∧ cs = comments.filter (place · = k)) ∧
      (∀ c ∈ comments, ∃! g, g ∈ groups ∧ c ∈ g.2) ∧
      (groups.flatMap (·.2)).Perm comments := by
  intro place groups
  have hplace : place = t.placeOf := by
    funext c
    exact (enclosing_eq_around hid c.span.startLine c.span.startCol (.refl t)).1
  have hfiled : t.Filed groups comments := filed_associate hid comments
  have hfirst : FirstUse (keyIds groups) (comments.map fun c => (t.placeOf c).id) :=
    firstUse_associate hid comments
  rw [hplace]
  exact ⟨hfirst.nodup, hfiled.pairwise_findIdx hid hfirst, hfiled.mem_groups_iff hid hfirst,
    fun c hc => hfiled.existsUnique_group hid hc, hfiled.flatMap_perm hfirst⟩

end Groups

def insideParameter : Comment := ⟨"# b", ⟨2, 2, 2, 5⟩⟩

def afterDefinition : Comment := ⟨"# z", ⟨9, 0, 9, 3⟩⟩

theorem parametersTree_descends_after :
    Node.Descends (parametersTree.mark 9 0) parametersTree.root parametersTree.root := by
  have hmark : parametersTree.mark 9 0 (parameters.node 1) = some false := by
    simp only [mark, parametersTree, ofRoot_span?]
    decide
  have hroot : parametersTree.root = parameters.node 0 := rfl
  rw [hroot]
  apply Node.Descends.stop
  simp [Node.next, Node.nearest_eq, Node.nearestAll, parameters_children, hmark]

/-- A comment that comes again goes to the group that it opened, past the one opened in between. -/
theorem associate_partitions_in_order_of_parameters :
    parametersTree.root.Identified ∧
      (parameters.node 6, [insideParameter, insideParameter]) ∈
        (parametersTree.associate [insideParameter, afterDefinition, insideParameter]).1 ∧
      (parametersTree.root, [afterDefinition]) ∈
        (parametersTree.associate [insideParameter, afterDefinition, insideParameter]).1 := by
  have hid := parametersTree_identified
  have hinside : (parametersTree.enclosing 2 2).1 = parameters.node 6 :=
    parametersTree_descends.unique (descends_enclosing hid 2 2)
  have hafter : (parametersTree.enclosing 9 0).1 = parametersTree.root :=
    parametersTree_descends_after.unique (descends_enclosing hid 9 0)
  have hne : parameters.node 6 ≠ parametersTree.root := by
    intro heq
    have hids := congrArg Node.id heq
    cases hids
  obtain ⟨-, -, hgroups, -, -⟩ := associate_partitions_in_order parametersTree hid
    [insideParameter, afterDefinition, insideParameter]
  refine ⟨hid, (hgroups _ _).mpr ⟨List.cons_ne_nil _ _, ?_⟩,
    (hgroups _ _).mpr ⟨List.cons_ne_nil _ _, ?_⟩⟩
  · simp [insideParameter, afterDefinition, hinside, hafter, hne.symm]
  · simp [insideParameter, afterDefinition, hinside, hafter, hne]

end SourceUnit.SyntaxTree
