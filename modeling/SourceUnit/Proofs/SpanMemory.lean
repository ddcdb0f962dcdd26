import SourceUnit.Proofs.Innermost
import SourceUnit.SyntaxTree

/-! Remembering spans changes no answer. Every query leaves a tree that answers as the tree before
it did about all nodes, so the search for the node around a position is the descent by the marks
that the first tree gives. -/
namespace SourceUnit.SyntaxTree

/-- What a tree answers when it is asked for the span of a node. -/
def span? (t : SyntaxTree) (n : Node) : Option Span := (t.spanOf n).1

theorem span?_eq (t : SyntaxTree) (n : Node) :
    t.span? n = (t.spans[n.id]?).or (t.read n) := by
  unfold span? spanOf
  cases t.spans[n.id]? with
  | some s => rfl
  | none =>
    cases t.read n with
    | none => rfl
    | some s => rfl

/-- A new tree reads every span off its text. -/
@[simp] theorem ofRoot_span? (b : Buffer) (h : b.isAssigned = true) (root n : Node) :
    (ofRoot b h root).span? n = (readSpan b.remember n).toOption.join := by
  have hread : readSpan b.remember n = .ok ((ofRoot b h root).read n) :=
    (ofRoot b h root).readSpan_eq_ok_read n
  rw [span?_eq, hread]
  simp [ofRoot, Except.toOption]

/-- A tree that answers as another one about the nodes below its root. -/
structure Agrees (t t' : SyntaxTree) : Prop where
  root : t'.root = t.root
  buffer : t'.buffer = t.buffer
  span? : ∀ n, t.root.Has n → t'.span? n = t.span? n

theorem Agrees.refl (t : SyntaxTree) : t.Agrees t := ⟨rfl, rfl, fun _ _ => rfl⟩

/-- Asking for a span changes the answer for no node: a new entry is what the tree would have
answered, and entries are found by identity. -/
theorem spanOf_snd_span? (t : SyntaxTree) {n m : Node} (h : m.id = n.id → m = n) :
    (t.spanOf n).2.span? m = t.span? m := by
  unfold spanOf
  cases hspan : t.spans[n.id]? with
  | some s => rfl
  | none =>
    cases hread : t.read n with
    | none => rfl
    | some s =>
      rw [span?_eq, span?_eq]
      by_cases hid : m.id = n.id
      · obtain rfl := h hid
        simp [hspan, hread]
      · have hne : ¬n.id = m.id := fun heq => hid heq.symm
        simp [Std.HashMap.getElem?_insert, hne, read]

theorem spanOf_snd_root (t : SyntaxTree) (n : Node) : (t.spanOf n).2.root = t.root := by
  unfold spanOf
  split
  · rfl
  · split
    · rfl
    · rfl

theorem spanOf_snd_buffer (t : SyntaxTree) (n : Node) : (t.spanOf n).2.buffer = t.buffer := by
  unfold spanOf
  split
  · rfl
  · split
    · rfl
    · rfl

variable {t₀ t : SyntaxTree}

theorem Agrees.spanOf (h : t₀.Agrees t) (hid : t₀.root.Identified) {n : Node}
    (hn : t₀.root.Has n) : t₀.Agrees (t.spanOf n).2 := by
  refine ⟨?_, ?_, ?_⟩
  · rw [spanOf_snd_root, h.root]
  · rw [spanOf_snd_buffer, h.buffer]
  · intro m hm
    rw [spanOf_snd_span? t (hid m n hm hn), h.span? m hm]

/-- Whether the span of a node holds a position, for nodes that have one. -/
def mark (t : SyntaxTree) (line col : Int) : Node.Marking :=
  fun n => (t.span? n).map (·.contains line col)

theorem mark_eq_some_true {line col : Int} {n : Node} :
    t.mark line col n = some true ↔ ∃ s, t.span? n = some s ∧ s.contains line col = true := by
  simp [mark]

theorem isSome_mark {line col : Int} {n : Node} :
    (t.mark line col n).isSome = (t.span? n).isSome := by
  simp [mark]

/-- One step of the search: the answer is that of the first tree, and so are all later ones. -/
theorem Agrees.of_spanOf_eq (h : t₀.Agrees t) (hid : t₀.root.Identified) {n : Node}
    (hn : t₀.root.Has n) {answer : Option Span} {t₁ : SyntaxTree}
    (hspan : t.spanOf n = (answer, t₁)) : t₀.span? n = answer ∧ t₀.Agrees t₁ := by
  constructor
  · rw [← h.span? n hn, SyntaxTree.span?, hspan]
  · have hnext := h.spanOf hid hn
    rwa [hspan] at hnext

/-- The search among some nodes is the descent by the marks of the tree it started from. -/
theorem enclosingIn_eq_innermost (hid : t₀.root.Identified) (line col : Int) {ns : List Node}
    (h : t₀.Agrees t) (hns : ∀ n ∈ ns, t₀.root.Has n) :
    (enclosingIn line col t ns).1 = Node.innermost (t₀.mark line col) ns ∧
      t₀.Agrees (enclosingIn line col t ns).2 := by
  have hdown {id kind position children rest}
      (hns : ∀ n ∈ Node.mk id kind position children :: rest, t₀.root.Has n) :
      ∀ c ∈ children, t₀.root.Has c := fun c hc =>
    (hns _ List.mem_cons_self).trans (.under hc (.self c))
  induction t, ns using enclosingIn.induct line col with
  | case1 t =>
    rw [enclosingIn, Node.innermost]
    exact ⟨rfl, h⟩
  | case2 t id kind position children rest t₁ s hs found t₂ hrec hspan ih =>
    obtain ⟨hanswer, h₁⟩ := h.of_spanOf_eq hid (hns _ List.mem_cons_self) hspan
    obtain ⟨hfound, h₂⟩ := ih h₁ (hdown hns)
    rw [hrec] at hfound h₂
    have hmark : t₀.mark line col (.mk id kind position children) = some true :=
      mark_eq_some_true.mpr ⟨s, hanswer, hs⟩
    rw [enclosingIn, hspan, Node.innermost, hmark]
    simp only [hs, if_true, hrec, ← hfound]
    exact ⟨rfl, h₂⟩
  | case3 t id kind position children rest t₁ s hs t₂ hrec hspan ih =>
    obtain ⟨hanswer, h₁⟩ := h.of_spanOf_eq hid (hns _ List.mem_cons_self) hspan
    obtain ⟨hfound, h₂⟩ := ih h₁ (hdown hns)
    rw [hrec] at hfound h₂
    have hmark : t₀.mark line col (.mk id kind position children) = some true :=
      mark_eq_some_true.mpr ⟨s, hanswer, hs⟩
    rw [enclosingIn, hspan, Node.innermost, hmark]
    simp only [hs, if_true, hrec, ← hfound]
    exact ⟨rfl, h₂⟩
  | case4 t id kind position children rest t₁ s hs hspan ih =>
    obtain ⟨hanswer, h₁⟩ := h.of_spanOf_eq hid (hns _ List.mem_cons_self) hspan
    have hmark : t₀.mark line col (.mk id kind position children) = some false := by
      simp [mark, hanswer, hs]
    rw [enclosingIn, hspan, Node.innermost, hmark]
    simp only [hs, Bool.false_eq_true, if_false]
    exact ih h₁ fun n hn => hns n (List.mem_cons_of_mem _ hn)
  | case5 t id kind position children rest t₁ found t₂ hrec hspan ih =>
    obtain ⟨hanswer, h₁⟩ := h.of_spanOf_eq hid (hns _ List.mem_cons_self) hspan
    obtain ⟨hfound, h₂⟩ := ih h₁ (hdown hns)
    rw [hrec] at hfound h₂
    have hmark : t₀.mark line col (.mk id kind position children) = none := by
      simp [mark, hanswer]
    rw [enclosingIn, hspan, Node.innermost, hmark]
    simp only [hrec, ← hfound]
    exact ⟨rfl, h₂⟩
  | case6 t id kind position children rest t₁ t₂ hrec hspan ihc ihr =>
    obtain ⟨hanswer, h₁⟩ := h.of_spanOf_eq hid (hns _ List.mem_cons_self) hspan
    obtain ⟨hfound, h₂⟩ := ihc h₁ (hdown hns)
    rw [hrec] at hfound h₂
    have hmark : t₀.mark line col (.mk id kind position children) = none := by
      simp [mark, hanswer]
    rw [enclosingIn, hspan, Node.innermost, hmark]
    simp only [hrec, ← hfound, Option.none_or]
    exact ihr h₂ fun n hn => hns n (List.mem_cons_of_mem _ hn)

/-- The node that the descent by a tree's marks ends at. -/
def around (t : SyntaxTree) (line col : Int) : Node :=
  (Node.innermost (t.mark line col) t.root.children).getD t.root

/-- The search for the node around a position, in a tree or in any later state of it. -/
theorem enclosing_eq_around (hid : t₀.root.Identified) (line col : Int) (h : t₀.Agrees t) :
    (t.enclosing line col).1 = t₀.around line col ∧ t₀.Agrees (t.enclosing line col).2 := by
  have hchildren : ∀ n ∈ t.root.children, t₀.root.Has n := by
    rw [h.root]
    exact fun n hn => .under hn (.self n)
  obtain ⟨hfound, hafter⟩ := enclosingIn_eq_innermost hid line col h hchildren
  unfold enclosing around
  rw [← h.root, ← hfound]
  rcases hrun : enclosingIn line col t t.root.children with ⟨_ | found, t₁⟩
  · rw [hrun] at hafter
    exact ⟨hafter.root.trans h.root.symm, hafter⟩
  · rw [hrun] at hafter
    exact ⟨rfl, hafter⟩

end SourceUnit.SyntaxTree
