import SourceUnit.Proofs.SpanMemory

/-! Where comments are filed. A comment goes to the node that the descent ends at, and that node is
the innermost one around the comment exactly if, below it, no span that holds the comment hides
under a span that does not. Trees where spans nest have this property; a decorated definition does
not, since its decorators stand before its span. -/
namespace SourceUnit.SyntaxTree

def Holds (t : SyntaxTree) (n : Node) (c : Comment) : Prop :=
  ∃ s, (t.spanOf n).1 = some s ∧ s.contains c.span.startLine c.span.startCol = true

def placeOf (t : SyntaxTree) (c : Comment) : Node := t.around c.span.startLine c.span.startCol

/-- Nothing below the node holds the comment. The root gets only comments that no other node
holds, and any other node holds its comments. -/
structure Innermost (t : SyntaxTree) (n : Node) (c : Comment) : Prop where
  none_below : ∀ m, n.Above m → ¬t.Holds m c
  root_only_if : n = t.root → ∀ m, t.root.Above m → ¬t.Holds m c
  holds : n ≠ t.root → t.Holds n c

/-- Below the node, the first span on the way to one that holds the comment holds it too. -/
def NestsBelow (t : SyntaxTree) (n : Node) (c : Comment) : Prop :=
  ∀ k m, Node.Nearest (t.mark c.span.startLine c.span.startCol) n k → k.Has m → t.Holds m c →
    t.Holds k c

section Place

variable {t : SyntaxTree} {c : Comment} {n : Node}

theorem holds_iff_mark :
    t.Holds n c ↔ t.mark c.span.startLine c.span.startCol n = some true :=
  mark_eq_some_true.symm

theorem placeOf_has : t.root.Has (t.placeOf c) := by
  unfold placeOf around
  cases hfound : Node.innermost (t.mark c.span.startLine c.span.startCol) t.root.children with
  | none => exact .self _
  | some m =>
    obtain ⟨⟨n, hn, hnm⟩, -⟩ := Node.innermost_eq_some hfound
    exact .under hn hnm

/-- The place of a comment is the root or holds it, and nothing nearest to it does. -/
theorem placeOf_spec :
    (t.placeOf c = t.root ∨ t.Holds (t.placeOf c) c) ∧
      Node.Settled (t.mark c.span.startLine c.span.startCol) (t.placeOf c) := by
  unfold placeOf around
  cases hfound : Node.innermost (t.mark c.span.startLine c.span.startCol) t.root.children with
  | none => exact ⟨.inl rfl, (Node.innermost_eq_none hfound).settled⟩
  | some m =>
    obtain ⟨-, hmark, hsettled⟩ := Node.innermost_eq_some hfound
    exact ⟨.inr (holds_iff_mark.mpr hmark), hsettled⟩

theorem innermost_placeOf_iff : t.Innermost (t.placeOf c) c ↔ t.NestsBelow (t.placeOf c) c := by
  obtain ⟨hplace, hsettled⟩ := placeOf_spec (t := t) (c := c)
  constructor
  · intro h k m hk hkm hm
    exact absurd hm (h.none_below m (hk.above.trans_has hkm))
  · intro h
    have hbelow : ∀ m, (t.placeOf c).Above m → ¬t.Holds m c := by
      intro m hm hholds
      have hplaced : (t.mark c.span.startLine c.span.startCol m).isSome := by
        rw [holds_iff_mark.mp hholds]
        rfl
      obtain ⟨k, hk, hkm⟩ := Node.exists_nearest hm hplaced
      exact hsettled k hk (holds_iff_mark.mp (h k m hk hkm hholds))
    refine ⟨hbelow, ?_, ?_⟩
    · intro hroot
      rwa [hroot] at hbelow
    · intro hroot
      exact hplace.resolve_left hroot

end Place

/-! ### Filing -/

/-- Groups that hold the comments filed so far, each under the node it belongs to. -/
structure Filed (t : SyntaxTree) (groups : List (Node × List Comment)) (done : List Comment) :
    Prop where
  known : ∀ g ∈ groups, t.root.Has g.1
  members : ∀ g ∈ groups, g.2 = done.filter fun c => (t.placeOf c).id == g.1.id
  complete : ∀ c ∈ done, ∃ g ∈ groups, g.1.id = (t.placeOf c).id

variable {t₀ t : SyntaxTree} {groups : List (Node × List Comment)} {done : List Comment}

theorem Filed.file_again (h : t₀.Filed groups done) (c : Comment)
    (hany : ∃ g ∈ groups, g.1.id = (t₀.placeOf c).id) :
    t₀.Filed
      (groups.map fun g => if g.1.id == (t₀.placeOf c).id then (g.1, g.2 ++ [c]) else g)
      (done ++ [c]) := by
  have hnode (g : Node × List Comment) :
      (if g.1.id == (t₀.placeOf c).id then (g.1, g.2 ++ [c]) else g).1 = g.1 := by
    split
    · rfl
    · rfl
  refine ⟨?_, ?_, ?_⟩
  · intro g hg
    obtain ⟨g₀, hg₀, rfl⟩ := List.mem_map.mp hg
    rw [hnode]
    exact h.known g₀ hg₀
  · intro g hg
    obtain ⟨g₀, hg₀, rfl⟩ := List.mem_map.mp hg
    rw [hnode, List.filter_append, ← h.members g₀ hg₀]
    by_cases hhere : g₀.1.id = (t₀.placeOf c).id
    · simp [hhere]
    · have hother : ¬(t₀.placeOf c).id = g₀.1.id := fun heq => hhere heq.symm
      simp [hhere, hother]
  · intro c' hc'
    have hgroup : ∃ g ∈ groups, g.1.id = (t₀.placeOf c').id := by
      rcases List.mem_append.mp hc' with hold | hnew
      · exact h.complete c' hold
      · rwa [List.mem_singleton.mp hnew]
    obtain ⟨g, hg, hid⟩ := hgroup
    exact ⟨_, List.mem_map_of_mem hg, by rw [hnode, hid]⟩

theorem Filed.file_first (h : t₀.Filed groups done) (c : Comment)
    (hnone : ∀ g ∈ groups, g.1.id ≠ (t₀.placeOf c).id) :
    t₀.Filed (groups ++ [(t₀.placeOf c, [c])]) (done ++ [c]) := by
  refine ⟨?_, ?_, ?_⟩
  · intro g hg
    rcases List.mem_append.mp hg with hold | hnew
    · exact h.known g hold
    · rw [List.mem_singleton.mp hnew]
      exact placeOf_has
  · intro g hg
    rw [List.filter_append]
    rcases List.mem_append.mp hg with hold | hnew
    · have hother : ¬(t₀.placeOf c).id = g.1.id := fun heq => hnone g hold heq.symm
      simp [hother, h.members g hold]
    · obtain rfl := List.mem_singleton.mp hnew
      have hempty : done.filter (fun c' => (t₀.placeOf c').id == (t₀.placeOf c).id) = [] := by
        rw [List.filter_eq_nil_iff]
        intro c' hc' heq
        obtain ⟨g, hg, hid⟩ := h.complete c' hc'
        exact hnone g hg (hid.trans (by simpa using heq))
      simp [hempty]
  · intro c' hc'
    rcases List.mem_append.mp hc' with hold | hnew
    · obtain ⟨g, hg, hid⟩ := h.complete c' hold
      exact ⟨g, List.mem_append_left _ hg, hid⟩
    · rw [List.mem_singleton.mp hnew]
      exact ⟨_, List.mem_append_right _ (List.mem_singleton_self _), rfl⟩

theorem Filed.file (h : t₀.Filed groups done) (c : Comment) :
    t₀.Filed (SyntaxTree.file groups (t₀.placeOf c) c) (done ++ [c]) := by
  unfold SyntaxTree.file
  split
  · rename_i hany
    obtain ⟨g, hg, hid⟩ := List.any_eq_true.mp hany
    exact h.file_again c ⟨g, hg, by simpa using hid⟩
  · rename_i hany
    refine h.file_first c fun g hg hid => hany ?_
    exact List.any_eq_true.mpr ⟨g, hg, by simpa using hid⟩

/-- Filing comments one after the other, in any later state of the tree, puts each in its place. -/
theorem foldl_enclosing_fst (hid : t₀.root.Identified) (hagrees : t₀.Agrees t)
    (groups : List (Node × List Comment)) (comments : List Comment) :
    (comments.foldl (fun (groups, t) c =>
      let (n, t) := t.enclosing c.span.startLine c.span.startCol
      (SyntaxTree.file groups n c, t)) (groups, t)).1 =
      comments.foldl (fun groups c => SyntaxTree.file groups (t₀.placeOf c) c) groups := by
  induction comments generalizing groups t with
  | nil => rfl
  | cons c comments ih =>
    obtain ⟨hplace, hafter⟩ := enclosing_eq_around hid c.span.startLine c.span.startCol hagrees
    rw [List.foldl_cons, List.foldl_cons, ih hafter, hplace]
    rfl

theorem associate_fst (hid : t.root.Identified) (comments : List Comment) :
    (t.associate comments).1 =
      comments.foldl (fun groups c => SyntaxTree.file groups (t.placeOf c) c) [] :=
  foldl_enclosing_fst hid (.refl t) [] comments

theorem Filed.foldl (h : t.Filed groups done) (comments : List Comment) :
    t.Filed (comments.foldl (fun groups c => SyntaxTree.file groups (t.placeOf c) c) groups)
      (done ++ comments) := by
  induction comments generalizing groups done with
  | nil => simpa using h
  | cons c comments ih =>
    have hnext := ih (h.file c)
    rwa [List.append_assoc, List.singleton_append] at hnext

theorem filed_associate (hid : t.root.Identified) (comments : List Comment) :
    t.Filed (t.associate comments).1 comments := by
  have hstart : t.Filed [] [] := ⟨by simp, by simp, by simp⟩
  rw [associate_fst hid]
  exact hstart.foldl comments

theorem Filed.eq_placeOf (h : t.Filed groups done) (hid : t.root.Identified)
    {g : Node × List Comment} (hg : g ∈ groups) {c : Comment} (hc : c ∈ g.2) :
    g.1 = t.placeOf c := by
  rw [h.members g hg, List.mem_filter] at hc
  exact hid _ _ (h.known g hg) placeOf_has (beq_iff_eq.mp hc.2).symm

theorem Filed.exists_group (h : t.Filed groups done) {c : Comment} (hc : c ∈ done) :
    ∃ g ∈ groups, c ∈ g.2 := by
  obtain ⟨g, hg, hgid⟩ := h.complete c hc
  refine ⟨g, hg, ?_⟩
  rw [h.members g hg, List.mem_filter]
  exact ⟨hc, by simp [hgid]⟩

/-- Every comment is filed, and the node it is filed under is the innermost one around it exactly
if spans nest around the comment below that node. This is so in every tree where a span that holds
the comment lies in spans that hold it. -/
theorem associate_innermost_iff_nests (t : SyntaxTree) (hid : t.root.Identified)
    (comments : List Comment) :
    (∀ c ∈ comments, ∃ g ∈ (t.associate comments).1, c ∈ g.2) ∧
      ∀ g ∈ (t.associate comments).1, ∀ c ∈ g.2,
        (t.Innermost g.1 c ↔ t.NestsBelow g.1 c) ∧
        ((∀ k m, t.root.Above k → (t.spanOf k).1.isSome → k.Has m → t.Holds m c → t.Holds k c) →
          t.Innermost g.1 c) := by
  have hfiled := filed_associate hid comments
  refine ⟨fun c hc => hfiled.exists_group hc, ?_⟩
  intro g hg c hc
  rw [hfiled.eq_placeOf hid hg hc]
  refine ⟨innermost_placeOf_iff, ?_⟩
  intro hnested
  rw [innermost_placeOf_iff]
  intro k m hk hkm hm
  refine hnested k m (placeOf_has.trans_above hk.above) ?_ hkm hm
  have hplaced := hk.placed
  rwa [isSome_mark] at hplaced

def placeAt (line col endLine endCol : Int) : Position :=
  ⟨.value line, .value col, .value endLine, .value endCol⟩

def decorator : Node :=
  .mk 4 "Call" (placeAt 1 1 3 6) [
    .mk 5 "Name" (placeAt 1 1 1 5) [.mk 6 "Load" {} []], .mk 7 "Constant" (placeAt 3 4 3 5) []]

/-- The decorated definition. Its span starts after the decorator. -/
def definition : Node :=
  .mk 1 "FunctionDef" (placeAt 4 0 4 13) [
    .mk 2 "arguments" {} [], .mk 3 "Pass" (placeAt 4 9 4 13) [], decorator]

def decorated : Node := .mk 0 "Module" {} [definition]

def decoratedTree : SyntaxTree :=
  ofRoot { text := some "@deco(\n    # c\n    1)\ndef f(): pass\n".toList } (by decide) decorated

def decoratorComment : Comment := ⟨"# c", ⟨2, 4, 2, 7⟩⟩

theorem decorated_identified : decorated.Identified := by
  have hunshared : decorated.Unshared := by
    unfold Node.Unshared
    decide
  exact hunshared.identified

theorem span?_definition : decoratedTree.span? definition = some ⟨4, 0, 4, 13⟩ := by
  rw [decoratedTree, ofRoot_span?]
  decide

theorem span?_decorator : decoratedTree.span? decorator = some ⟨1, 1, 3, 6⟩ := by
  rw [decoratedTree, ofRoot_span?]
  decide

/-- The descent stops at the definition, whose span does not hold the comment. -/
theorem placeOf_decoratorComment : decoratedTree.placeOf decoratorComment = decorated := by
  have hmark : decoratedTree.mark 2 4 definition = some false := by
    rw [mark, span?_definition]
    rfl
  have hnone : Node.innermost (decoratedTree.mark 2 4) [definition] = none := by
    rw [definition] at hmark ⊢
    rw [Node.innermost, hmark, Node.innermost]
  change (Node.innermost (decoratedTree.mark 2 4) [definition]).getD decorated = decorated
  rw [hnone]
  rfl

/-- A comment inside a decorator is filed under the root, though the decorator holds it. -/
theorem decoratorComment_not_innermost :
    decoratedTree.root.Identified ∧
      ∃ g ∈ (decoratedTree.associate [decoratorComment]).1, decoratorComment ∈ g.2 ∧
        g.1 = decoratedTree.root ∧ decoratedTree.root.Above decorator ∧
        decoratedTree.Holds decorator decoratorComment ∧
        ¬decoratedTree.Innermost g.1 decoratorComment := by
  have hid : decoratedTree.root.Identified := decorated_identified
  have hfiled := filed_associate hid [decoratorComment]
  obtain ⟨g, hg, hc⟩ := hfiled.exists_group (List.mem_singleton_self decoratorComment)
  have hroot : g.1 = decoratedTree.root :=
    (hfiled.eq_placeOf hid hg hc).trans placeOf_decoratorComment
  have habove : decoratedTree.root.Above decorator :=
    ⟨definition, List.mem_singleton_self _, .under (c := decorator) (by simp [definition, Node.children])
      (.self _)⟩
  have hholds : decoratedTree.Holds decorator decoratorComment := ⟨_, span?_decorator, rfl⟩
  refine ⟨hid, g, hg, hc, hroot, habove, hholds, ?_⟩
  intro hinnermost
  exact hinnermost.root_only_if hroot decorator habove hholds

/-- The comment's group meets the criterion: it is not innermost, because spans do not nest. -/
theorem associate_innermost_iff_nests_of_decorated :
    decoratedTree.root.Identified ∧
      ∃ g ∈ (decoratedTree.associate [decoratorComment]).1, decoratorComment ∈ g.2 ∧
        (decoratedTree.Innermost g.1 decoratorComment ↔
          decoratedTree.NestsBelow g.1 decoratorComment) := by
  obtain ⟨hall, hgroups⟩ :=
    associate_innermost_iff_nests decoratedTree decorated_identified [decoratorComment]
  obtain ⟨g, hg, hc⟩ := hall decoratorComment (List.mem_singleton_self _)
  exact ⟨decorated_identified, g, hg, hc, (hgroups g hg decoratorComment hc).1⟩

end SourceUnit.SyntaxTree
