import SourceUnit.Proofs.CommentPlacement
import SourceUnit.Proofs.NodeText
import SourceUnit.SyntaxTree.Query

/-! Answers of a tree do not depend on its history. Whatever was asked before, and whether or not the
tree has been completed, a question is answered as a new tree would answer it. A completed tree
remembers the span of every node that has one, so it keeps answering so over any other text. -/
namespace SourceUnit

namespace SyntaxTree

@[simp] theorem readSpan_remember (b : Buffer) (n : Node) : readSpan b.remember n = readSpan b n := by
  have hcolumn : b.remember.charColumn = b.charColumn := by
    funext line offset
    simp only [Buffer.charColumn, Buffer.line, Buffer.remember_lines, Buffer.remember_firstLine]
  simp only [readSpan, hcolumn]

/-- A node has a span, over any text, exactly if it has a position. -/
theorem isSome_read (t : SyntaxTree) (n : Node) : (t.read n).isSome = n.start?.isSome := by
  have hread := t.readSpan_eq_ok_read n
  unfold readSpan at hread
  cases hstart : n.start? with
  | none =>
    rw [hstart] at hread
    rw [← Except.ok.inj hread]
    rfl
  | some start =>
    obtain ⟨startCol, hcol⟩ := Buffer.exists_charColumn t.assigned start.1 start.2
    obtain ⟨endCol, hendCol⟩ := Buffer.exists_charColumn t.assigned _ _
    rw [hstart] at hread
    dsimp only at hread
    rw [hcol, hendCol] at hread
    rw [← Except.ok.inj hread]
    rfl

/-! ### What a question does to a tree -/

theorem asked_cons {t t₁ : SyntaxTree} {n : Node} {span : Option Span}
    (h : t.spanOf n = (span, t₁)) (ms : List Node) : t.asked (n :: ms) = t₁.asked ms := by
  have hnext : (t.spanOf n).2 = t₁ := by rw [h]
  rw [← hnext]
  rfl

theorem asked_append (t : SyntaxTree) (ms ks : List Node) :
    t.asked (ms ++ ks) = (t.asked ms).asked ks := by
  simp [asked]

theorem asked_parents (t : SyntaxTree) (ms : List Node) : (t.asked ms).parents = t.parents := by
  induction ms generalizing t with
  | nil => rfl
  | cons m ms ih =>
    have hstep : (t.spanOf m).2.parents = t.parents := by
      unfold spanOf
      split
      · rfl
      · split
        · rfl
        · rfl
    exact (ih (t.spanOf m).2).trans hstep

theorem asked_root (t : SyntaxTree) (ms : List Node) : (t.asked ms).root = t.root := by
  induction ms generalizing t with
  | nil => rfl
  | cons m ms ih => exact (ih (t.spanOf m).2).trans (spanOf_snd_root t m)

/-- A search does nothing to the tree but ask for spans of nodes it meets. -/
theorem exists_asked_enclosingIn (line col : Int) (t : SyntaxTree) (ns : List Node) :
    ∃ ms, (∀ m ∈ ms, ∃ n ∈ ns, n.Has m) ∧ (enclosingIn line col t ns).2 = t.asked ms := by
  have hhere (id : Nat) (kind : String) (position : Position) (children rest ms : List Node)
      (h : ∀ m ∈ ms, (∃ c ∈ children, c.Has m) ∨ ∃ n ∈ rest, n.Has m) :
      ∀ m ∈ .mk id kind position children :: ms,
        ∃ n ∈ .mk id kind position children :: rest, n.Has m := by
    intro m hm
    rcases List.mem_cons.mp hm with rfl | hm
    · exact ⟨_, List.mem_cons_self, .self _⟩
    · rcases h m hm with ⟨c, hc, hcm⟩ | ⟨n, hn, hnm⟩
      · exact ⟨_, List.mem_cons_self, .under hc hcm⟩
      · exact ⟨n, List.mem_cons_of_mem _ hn, hnm⟩
  -- along the search: it asks for the span of the first node, then goes below it or past it
  induction t, ns using enclosingIn.induct line col with
  | case1 t =>
    rw [enclosingIn]
    exact ⟨[], by simp, rfl⟩
  | case2 t id kind position children rest t₁ s hs found t₂ hrec hspan ih =>
    obtain ⟨ms, hms, hasked⟩ := ih
    refine ⟨_, hhere id kind position children rest ms fun m hm => .inl (hms m hm), ?_⟩
    rw [hrec] at hasked
    rw [asked_cons hspan, ← hasked, enclosingIn, hspan]
    simp only [hs, if_true, hrec]
  | case3 t id kind position children rest t₁ s hs t₂ hrec hspan ih =>
    obtain ⟨ms, hms, hasked⟩ := ih
    refine ⟨_, hhere id kind position children rest ms fun m hm => .inl (hms m hm), ?_⟩
    rw [hrec] at hasked
    rw [asked_cons hspan, ← hasked, enclosingIn, hspan]
    simp only [hs, if_true, hrec]
  | case4 t id kind position children rest t₁ s hs hspan ih =>
    obtain ⟨ms, hms, hasked⟩ := ih
    refine ⟨_, hhere id kind position children rest ms fun m hm => .inr (hms m hm), ?_⟩
    rw [asked_cons hspan, ← hasked, enclosingIn, hspan]
    simp only [hs, Bool.false_eq_true, if_false]
  | case5 t id kind position children rest t₁ found t₂ hrec hspan ih =>
    obtain ⟨ms, hms, hasked⟩ := ih
    refine ⟨_, hhere id kind position children rest ms fun m hm => .inl (hms m hm), ?_⟩
    rw [hrec] at hasked
    rw [asked_cons hspan, ← hasked, enclosingIn, hspan]
    simp only [hrec]
  | case6 t id kind position children rest t₁ t₂ hrec hspan ihc ihr =>
    obtain ⟨ms, hms, hasked⟩ := ihc
    obtain ⟨ks, hks, hasked'⟩ := ihr
    refine ⟨_, hhere id kind position children rest (ms ++ ks) fun m hm =>
      (List.mem_append.mp hm).imp (hms m) (hks m), ?_⟩
    rw [hrec] at hasked
    rw [asked_cons hspan, asked_append, ← hasked, ← hasked', enclosingIn, hspan]
    simp only [hrec]

theorem exists_asked_enclosing (t : SyntaxTree) (line col : Int) :
    ∃ ms, (∀ m ∈ ms, t.root.Has m) ∧ (t.enclosing line col).2 = t.asked ms := by
  obtain ⟨ms, hms, hasked⟩ := exists_asked_enclosingIn line col t t.root.children
  refine ⟨ms, ?_, ?_⟩
  · intro m hm
    obtain ⟨c, hc, hcm⟩ := hms m hm
    exact .under hc hcm
  · rw [← hasked]
    unfold enclosing
    rcases enclosingIn line col t t.root.children with ⟨_ | found, t₁⟩
    · rfl
    · rfl

theorem exists_asked_foldl (comments : List Comment) (groups : List (Node × List Comment))
    (t : SyntaxTree) :
    ∃ ms, (∀ m ∈ ms, t.root.Has m) ∧
      (comments.foldl (fun (groups, t) c =>
        let (n, t) := t.enclosing c.span.startLine c.span.startCol
        (file groups n c, t)) (groups, t)).2 = t.asked ms := by
  induction comments generalizing groups t with
  | nil => exact ⟨[], by simp, rfl⟩
  | cons c comments ih =>
    obtain ⟨ms, hms, hasked⟩ := t.exists_asked_enclosing c.span.startLine c.span.startCol
    obtain ⟨ks, hks, hasked'⟩ :=
      ih (file groups (t.enclosing c.span.startLine c.span.startCol).1 c)
        (t.enclosing c.span.startLine c.span.startCol).2
    refine ⟨ms ++ ks, ?_, ?_⟩
    · intro m hm
      rcases List.mem_append.mp hm with hm | hm
      · exact hms m hm
      · have hroot := hks m hm
        rwa [hasked, asked_root] at hroot
    · rw [asked_append, ← hasked, ← hasked']
      rfl

theorem exists_asked_associate (t : SyntaxTree) (comments : List Comment) :
    ∃ ms, (∀ m ∈ ms, t.root.Has m) ∧ (t.associate comments).2 = t.asked ms :=
  exists_asked_foldl comments [] t

/-- A question about nodes of the tree. -/
def Query.Within (root : Node) : Query → Prop
  | .walk start => ∀ n, start = some n → root.Has n
  | .children n => root.Has n
  | .parent n => root.Has n
  | .span n => root.Has n
  | .enclosing _ _ => True
  | .associate _ => True

/-- All that a question can do to a tree: it completes it, or asks for spans of its nodes. -/
theorem ask_snd_cases (t : SyntaxTree) (q : Query) :
    (t.ask q).2 = t.complete ∨
      ∃ ms, (q.Within t.root → ∀ m ∈ ms, t.root.Has m) ∧ (t.ask q).2 = t.asked ms := by
  cases q with
  | walk start => exact .inr ⟨[], by simp, rfl⟩
  | children n => exact .inr ⟨[], by simp, rfl⟩
  | parent n => exact .inl rfl
  | span n =>
    refine .inr ⟨[n], ?_, rfl⟩
    intro hn m hm
    rwa [List.mem_singleton.mp hm]
  | enclosing line col =>
    obtain ⟨ms, hms, hasked⟩ := t.exists_asked_enclosing line col
    exact .inr ⟨ms, fun _ => hms, hasked⟩
  | associate comments =>
    obtain ⟨ms, hms, hasked⟩ := t.exists_asked_associate comments
    exact .inr ⟨ms, fun _ => hms, hasked⟩

theorem complete_eq {t : SyntaxTree} (h : t.parents = none) :
    t.complete =
      { t.asked t.root.levels with parents := some (t.root.levels.foldl adopt {}) } := by
  unfold complete
  rw [h]
  rfl

theorem complete_eq_self {t : SyntaxTree} {parents : Std.HashMap Nat Node}
    (h : t.parents = some parents) : t.complete = t := by
  unfold complete
  rw [h]

/-! ### What is remembered stays -/

/-- A later state of a tree, with every span that the tree remembers. -/
structure Keeps (t t' : SyntaxTree) : Prop where
  root : t'.root = t.root
  spans : ∀ (i : Nat) (s : Span), t.spans[i]? = some s → t'.spans[i]? = some s

theorem Keeps.refl (t : SyntaxTree) : t.Keeps t := ⟨rfl, fun _ _ h => h⟩

theorem Keeps.trans {t t' t'' : SyntaxTree} (h : t.Keeps t') (h' : t'.Keeps t'') : t.Keeps t'' :=
  ⟨h'.root.trans h.root, fun i s hs => h'.spans i s (h.spans i s hs)⟩

/-- A span is written only where there was none. -/
theorem keeps_spanOf (t : SyntaxTree) (n : Node) : t.Keeps (t.spanOf n).2 := by
  refine ⟨spanOf_snd_root t n, ?_⟩
  intro i s hs
  unfold spanOf
  split
  · exact hs
  · rename_i hnone
    split
    · exact hs
    · have hne : ¬n.id = i := by
        rintro rfl
        rw [hnone] at hs
        cases hs
      simpa [Std.HashMap.getElem?_insert, hne] using hs

theorem keeps_asked (t : SyntaxTree) (ms : List Node) : t.Keeps (t.asked ms) := by
  induction ms generalizing t with
  | nil => exact .refl t
  | cons m ms ih => exact (t.keeps_spanOf m).trans (ih (t.spanOf m).2)

theorem keeps_complete (t : SyntaxTree) : t.Keeps t.complete := by
  cases hparents : t.parents with
  | some parents =>
    rw [complete_eq_self hparents]
    exact .refl t
  | none =>
    have hasked := t.keeps_asked t.root.levels
    rw [complete_eq hparents]
    exact ⟨hasked.root, hasked.spans⟩

theorem keeps_reassign (t : SyntaxTree) (raw : RawSource) : t.Keeps (t.reassign raw) := by
  unfold reassign
  split
  · exact ⟨rfl, fun _ _ h => h⟩
  · exact .refl t

theorem keeps_ask (t : SyntaxTree) (q : Query) : t.Keeps (t.ask q).2 := by
  rcases t.ask_snd_cases q with hcompleted | ⟨ms, -, hasked⟩
  · rw [hcompleted]
    exact t.keeps_complete
  · rw [hasked]
    exact t.keeps_asked ms

theorem keeps_step (t : SyntaxTree) (s : Step) : t.Keeps (t.step s).2 := by
  cases s with
  | ask q => exact t.keeps_ask q
  | complete => exact t.keeps_complete
  | assign raw => exact t.keeps_reassign raw

theorem keeps_run (t : SyntaxTree) (steps : List Step) : t.Keeps (t.run steps).2 := by
  induction steps generalizing t with
  | nil => exact .refl t
  | cons s steps ih => exact (t.keeps_step s).trans (ih (t.step s).2)

/-! ### Trees that answer alike -/

/-- Who is whose parent: what the tree remembers or, before it is completed, will remember. -/
def links (t : SyntaxTree) : Std.HashMap Nat Node :=
  t.parents.getD (t.root.levels.foldl adopt {})

theorem parentOf_fst (t : SyntaxTree) (n : Node) : (t.parentOf n).1 = t.links[n.id]? := by
  unfold parentOf links
  cases hparents : t.parents with
  | some parents => simp [complete_eq_self hparents, hparents]
  | none => simp [complete_eq hparents]

theorem links_asked (t : SyntaxTree) (ms : List Node) : (t.asked ms).links = t.links := by
  rw [links, links, asked_root, asked_parents]

theorem links_complete (t : SyntaxTree) : t.complete.links = t.links := by
  cases hparents : t.parents with
  | some parents => rw [complete_eq_self hparents]
  | none => simp [complete_eq hparents, links, hparents]

/-- Two trees with the same nodes that answer every question about these nodes alike, whatever they
remember and whatever their buffers hold. -/
structure Alike (t t' : SyntaxTree) : Prop where
  root : t'.root = t.root
  links : t'.links = t.links
  span? : ∀ n, t.root.Has n → t'.span? n = t.span? n

theorem Alike.refl (t : SyntaxTree) : t.Alike t := ⟨rfl, rfl, fun _ _ => rfl⟩

theorem Alike.trans {t t' t'' : SyntaxTree} (h : t.Alike t') (h' : t'.Alike t'') : t.Alike t'' := by
  refine ⟨h'.root.trans h.root, h'.links.trans h.links, ?_⟩
  intro n hn
  have hn' : t'.root.Has n := by rwa [h.root]
  rw [h'.span? n hn', h.span? n hn]

variable {t t' : SyntaxTree}

theorem Alike.around (h : t.Alike t') (line col : Int) : t'.around line col = t.around line col := by
  have hmark : ∀ n ∈ t.root.children, ∀ m, n.Has m → t'.mark line col m = t.mark line col m := by
    intro n hn m hm
    rw [mark, mark, h.span? m (.under hn hm)]
  rw [SyntaxTree.around, SyntaxTree.around, h.root, Node.innermost_congr hmark]

theorem Alike.ask_fst (h : t.Alike t') (hid : t.root.Identified) {q : Query}
    (hq : q.Within t.root) : (t'.ask q).1 = (t.ask q).1 := by
  have hid' : t'.root.Identified := by rwa [h.root]
  cases q with
  | walk start =>
    simp only [ask, h.root]
  | children n => rfl
  | parent n =>
    simp only [ask, parentOf_fst, h.links]
  | span n =>
    have hspan : (t'.spanOf n).1 = (t.spanOf n).1 := h.span? n hq
    simp only [ask, hspan]
  | enclosing line col =>
    simp only [ask, (enclosing_eq_around hid line col (.refl t)).1,
      (enclosing_eq_around hid' line col (.refl t')).1, h.around line col]
  | associate comments =>
    have hplace (c : Comment) : t'.placeOf c = t.placeOf c := h.around _ _
    simp only [ask, associate_fst hid, associate_fst hid', hplace]

theorem alike_asked (hid : t.root.Identified) {ms : List Node} (hms : ∀ m ∈ ms, t.root.Has m) :
    t.Alike (t.asked ms) := by
  refine ⟨t.asked_root ms, t.links_asked ms, ?_⟩
  intro n hn
  exact t.asked_span? fun m hm heq => hid n m hn (hms m hm) heq

theorem alike_complete (hid : t.root.Identified) : t.Alike t.complete := by
  cases hparents : t.parents with
  | some parents =>
    rw [complete_eq_self hparents]
    exact .refl t
  | none =>
    have hasked := alike_asked hid fun m (hm : m ∈ t.root.levels) => Node.mem_levels.mp hm
    have hlinks := t.links_complete
    rw [complete_eq hparents] at hlinks ⊢
    refine ⟨hasked.root, hlinks, ?_⟩
    intro n hn
    rw [← hasked.span? n hn, span?_eq, span?_eq]
    rfl

theorem alike_ask (hid : t.root.Identified) {q : Query} (hq : q.Within t.root) :
    t.Alike (t.ask q).2 := by
  rcases t.ask_snd_cases q with hcompleted | ⟨ms, hms, hasked⟩
  · rw [hcompleted]
    exact alike_complete hid
  · rw [hasked]
    exact alike_asked hid (hms hq)

/-! ### Trees that no longer need their buffer -/

/-- The span of every node with a position is remembered. -/
def Full (t : SyntaxTree) : Prop :=
  ∀ n, t.root.Has n → n.start?.isSome → (t.spans[n.id]?).isSome

theorem Full.of_keeps (h : t.Full) (hkeeps : t.Keeps t') : t'.Full := by
  intro n hn hstart
  rw [hkeeps.root] at hn
  obtain ⟨s, hs⟩ := Option.isSome_iff_exists.mp (h n hn hstart)
  rw [hkeeps.spans n.id s hs]
  rfl

theorem Full.alike_reassign (h : t.Full) (raw : RawSource) : t.Alike (t.reassign raw) := by
  unfold reassign
  split
  · rename_i b hb
    refine ⟨rfl, rfl, ?_⟩
    intro n hn
    rw [span?_eq, span?_eq]
    cases hspan : t.spans[n.id]? with
    | some s => simp [withBuffer, hspan]
    | none =>
      -- No span is remembered, so the node has no position and no text gives it a span.
      have hstart : n.start?.isSome = false := by
        by_contra hsome
        have hfull := h n hn (eq_true_of_ne_false hsome)
        rw [hspan] at hfull
        cases hfull
      have hread (t : SyntaxTree) : t.read n = none := by
        rw [← Option.not_isSome_iff_eq_none, isSome_read, hstart]
        exact Bool.false_ne_true
      simp [withBuffer, hspan, hread]
  · exact .refl t

theorem isSome_spans_of_asked (t : SyntaxTree) {n : Node} {ms : List Node} (hn : n ∈ ms)
    (hstart : n.start?.isSome) : ((t.asked ms).spans[n.id]?).isSome := by
  induction ms generalizing t with
  | nil => cases hn
  | cons m ms ih =>
    rcases List.mem_cons.mp hn with rfl | hn
    · have hnow : ∃ s, (t.spanOf n).2.spans[n.id]? = some s := by
        obtain ⟨s, hs⟩ := Option.isSome_iff_exists.mp ((t.isSome_read n).trans hstart)
        unfold spanOf
        cases hspan : t.spans[n.id]? with
        | some s => exact ⟨s, hspan⟩
        | none => simp [hs]
      obtain ⟨s, hs⟩ := hnow
      have hlater := ((t.spanOf n).2.keeps_asked ms).spans n.id s hs
      exact Option.isSome_iff_exists.mpr ⟨s, hlater⟩
    · exact ih (t.spanOf m).2 hn

theorem full_complete (h : t.parents = none) : t.complete.Full := by
  intro n hn hstart
  rw [complete_eq h] at hn ⊢
  have hroot : t.root.Has n := by rwa [← t.asked_root t.root.levels]
  exact t.isSome_spans_of_asked (Node.mem_levels.mpr hroot) hstart

/-- In a full tree, what is remembered of a node is what the tree answers about it. -/
theorem Full.spans_eq (h : t.Full) {n : Node} (hn : t.root.Has n) (hstart : n.start?.isSome) :
    t.spans[n.id]? = t.span? n := by
  obtain ⟨s, hs⟩ := Option.isSome_iff_exists.mp (h n hn hstart)
  rw [span?_eq, hs]
  rfl

/-! ### Histories -/

/-- What is asked, in order. -/
def questions (steps : List Step) : List Query :=
  steps.filterMap fun
    | .ask q => some q
    | _ => none

theorem alike_step (hid : t.root.Identified) {s : Step}
    (hq : ∀ q, s = .ask q → q.Within t.root) (hassign : t.Full ∨ ∀ raw, s ≠ .assign raw) :
    t.Alike (t.step s).2 := by
  cases s with
  | ask q => exact alike_ask hid (hq q rfl)
  | complete => exact alike_complete hid
  | assign raw =>
    -- only a tree that needs its text no more lives through this
    rcases hassign with hfull | hnone
    · exact hfull.alike_reassign raw
    · exact absurd rfl (hnone raw)

theorem run_fst {t₀ : SyntaxTree} (hid : t₀.root.Identified) (halike : t₀.Alike t)
    {steps : List Step} (hq : ∀ q, .ask q ∈ steps → q.Within t₀.root)
    (hassign : t.Full ∨ ∀ raw, .assign raw ∉ steps) :
    (t.run steps).1 = (questions steps).map fun q => (t₀.ask q).1 := by
  induction steps generalizing t with
  | nil => rfl
  | cons s steps ih =>
    have hidt : t.root.Identified := by rwa [halike.root]
    have hstep : t.Alike (t.step s).2 := by
      refine alike_step hidt ?_ ?_
      · rintro q rfl
        rw [halike.root]
        exact hq q List.mem_cons_self
      · refine hassign.imp id ?_
        rintro hnone raw rfl
        exact hnone raw List.mem_cons_self
    have hrest := ih (halike.trans hstep) (fun q hmem => hq q (List.mem_cons_of_mem _ hmem))
      (hassign.imp (fun hfull => hfull.of_keeps (t.keeps_step s))
        fun hnone raw hmem => hnone raw (List.mem_cons_of_mem _ hmem))
    have hrun : (t.run (s :: steps)).1 = (t.step s).1.toList ++ ((t.step s).2.run steps).1 := rfl
    rw [hrun, hrest]
    cases s with
    | ask q =>
      have hanswer := halike.ask_fst hid (hq q List.mem_cons_self)
      simp [step, questions, hanswer]
    | complete => simp [step, questions]
    | assign raw => simp [step, questions]

/-- A question is answered as the new tree would answer it, whatever was asked and whenever the tree
was completed before. Once the tree is completed, this is so whatever sources its buffer is given or
refuses: it remembers the span of every node with a position, read off the text at completion, and
no question overwrites what is remembered. -/
theorem answers_independent_of_history {b : Buffer} (hassigned : b.isAssigned = true) {root : Node}
    (hid : root.Identified) {steps : List Step} (hwithin : ∀ q, .ask q ∈ steps → q.Within root) :
    let fresh := ofRoot b hassigned root
    let answers := (questions steps).map fun q => (fresh.ask q).1
    ((∀ raw, .assign raw ∉ steps) → (fresh.run steps).1 = answers) ∧
      (fresh.complete.run steps).1 = answers ∧
      (∀ n, root.Has n → n.start?.isSome →
        ∃ s, readSpan b n = .ok (some s) ∧ (fresh.complete.run steps).2.spans[n.id]? = some s) ∧
      ∀ (t : SyntaxTree) (q : Query) (i : Nat) (s : Span),
        t.spans[i]? = some s → (t.ask q).2.spans[i]? = some s := by
  intro fresh answers
  have hfull : fresh.complete.Full := full_complete rfl
  have halike : fresh.Alike fresh.complete := alike_complete hid
  refine ⟨?_, ?_, ?_, ?_⟩
  · intro hnone
    exact run_fst hid (.refl fresh) hwithin (.inr hnone)
  · exact run_fst hid halike hwithin (.inl hfull)
  · intro n hn hstart
    obtain ⟨s, hs⟩ := Option.isSome_iff_exists.mp ((fresh.isSome_read n).trans hstart)
    have hread : readSpan b n = .ok (some s) := by
      rw [← readSpan_remember, ← hs]
      exact fresh.readSpan_eq_ok_read n
    have hroot : fresh.complete.root.Has n := by rwa [halike.root]
    refine ⟨s, hread, (fresh.complete.keeps_run steps).spans n.id s ?_⟩
    calc fresh.complete.spans[n.id]?
      _ = fresh.complete.span? n := hfull.spans_eq hroot hstart
      _ = fresh.span? n := halike.span? n hn
      _ = (readSpan b n).toOption.join := by rw [ofRoot_span?, readSpan_remember]
      _ = some s := by rw [hread]; rfl
  · intro t q
    exact (t.keeps_ask q).spans

/-- The second character of `mixedText`, which takes two bytes. -/
def shared : Node := .mk 3 "Name" (placeAt 1 1 1 3) []

/-- Two statements that hold one and the same node. -/
def sharing : Node :=
  .mk 0 "Module" {} [.mk 1 "Expr" (placeAt 1 0 1 3) [shared], .mk 2 "Expr" (placeAt 2 0 2 5) [shared]]

theorem sharing_identified : sharing.Identified := by
  have hlookup : ∀ m, sharing.Has m → m =
      match m.id with
      | 0 => sharing
      | 1 => .mk 1 "Expr" (placeAt 1 0 1 3) [shared]
      | 2 => .mk 2 "Expr" (placeAt 2 0 2 5) [shared]
      | _ => shared := by
    intro m hm
    rw [← Node.mem_preorder] at hm
    simp only [sharing, shared, Node.preorder, Node.preorderAll, List.append_nil, List.cons_append,
      List.nil_append, List.mem_cons, List.not_mem_nil, or_false] at hm
    rcases hm with rfl | rfl | rfl | rfl | rfl
    all_goals rfl
  intro m n hm hn heq
  rw [hlookup m hm, hlookup n hn, heq]

/-- The buffer gets other text, then bytes that are no text; the column after the character is still
two and not three. -/
def reassignedSteps : List Step :=
  [.assign (.bytes [0x61, 0x61, 0x61]), .ask (.parent shared), .assign (.bytes [0xFF]),
    .ask (.span shared)]

theorem answers_independent_of_history_of_sharing :
    sharing.Identified ∧ (∀ q, .ask q ∈ reassignedSteps → q.Within sharing) ∧
      ((ofRoot mixedBuffer rfl sharing).complete.run reassignedSteps).1 =
        [((ofRoot mixedBuffer rfl sharing).ask (.parent shared)).1, .maybeSpan (some ⟨1, 1, 1, 2⟩)] := by
  have hshared : sharing.Has shared :=
    .under (List.mem_cons_self) (.under (List.mem_singleton_self shared) (.self shared))
  have hwithin : ∀ q, .ask q ∈ reassignedSteps → q.Within sharing := by
    intro q hq
    simp only [reassignedSteps, List.mem_cons, Step.ask.injEq, reduceCtorEq, false_or,
      List.not_mem_nil, or_false] at hq
    rcases hq with rfl | rfl
    · exact hshared
    · exact hshared
  have hspan : ((ofRoot mixedBuffer rfl sharing).spanOf shared).1 = some ⟨1, 1, 1, 2⟩ := by
    have hread : (readSpan mixedBuffer.remember shared).toOption.join = some ⟨1, 1, 1, 2⟩ := by
      decide +kernel
    rw [← hread, ← ofRoot_span? mixedBuffer rfl sharing]
    rfl
  have hanswers :=
    (answers_independent_of_history (b := mixedBuffer) rfl sharing_identified hwithin).2.1
  refine ⟨sharing_identified, hwithin, hanswers.trans ?_⟩
  simp [questions, reassignedSteps, ask, hspan]

end SyntaxTree

end SourceUnit
