import SourceUnit.Proofs.BufferMemory
import SourceUnit.Proofs.Chunks

/-! The lines of a text are the only way to cut it at its breaks: nothing is lost, CR LF is one break,
and no other character ends a line. -/
namespace SourceUnit

namespace Text

/-- No break that is CR alone has LF behind it. -/
def Apart (ps : List Piece) : Prop :=
  ∀ before p after, ps = before ++ p :: after → p.ending = ['\r'] →
    (after.flatMap Piece.whole).head? ≠ some '\n'

/-- A way to cut a text into lines with their breaks. -/
structure Splits (s : List Char) (ps : List Piece) : Prop where
  shaped : Shaped ps
  apart : Apart ps
  joined : ps.flatMap Piece.whole = s

/-! ### The pieces split the text -/

theorem apart_pieces (s : List Char) : Apart (pieces s) := by
  fun_induction pieces s with
  | case1 => simp [Apart]
  | case2 rest ih =>
    intro before p after hps hp
    cases before with
    | nil =>
      cases hps
      simp at hp
    | cons q before => exact ih before p after (List.cons.inj hps).2 hp
  | case3 c rest hnot hbreak ih =>
    intro before p after hps hp
    cases before with
    | nil =>
      cases hps
      rw [flatMap_whole_pieces]
      intro hhead
      obtain ⟨tail, rfl⟩ := List.head?_eq_some_iff.mp hhead
      exact hnot tail (List.cons.inj hp).1 rfl
    | cons q before => exact ih before p after (List.cons.inj hps).2 hp
  | case4 c rest hnot hbreak ih =>
    intro before p after hps hp
    -- the first piece only has a longer line than before, so its break stands before the same text
    cases hpieces : pieces rest with
    | nil =>
      rw [hpieces] at hps
      cases before with
      | nil =>
        cases hps
        cases hp
      | cons q before => simp [lengthen] at hps
    | cons q qs =>
      rw [hpieces] at hps ih
      cases before with
      | nil =>
        cases hps
        exact ih [] q _ rfl hp
      | cons r before => exact ih (q :: before) p after (congrArg (q :: ·) (List.cons.inj hps).2) hp

theorem splits_pieces (s : List Char) : Splits s (pieces s) :=
  ⟨pieces_shaped s, apart_pieces s, flatMap_whole_pieces s⟩

/-! ### Nothing else does -/

theorem pieces_append {line : List Char} (h : ∀ c ∈ line, ¬IsBreak c) (rest : List Char) :
    pieces (line ++ rest) = lengthen line (pieces rest) := by
  induction line with
  | nil => simp
  | cons c line ih =>
    obtain ⟨hc, hline⟩ := List.forall_mem_cons.mp h
    have hnot : ∀ tail, c = '\r' → line ++ rest = '\n' :: tail → False := fun _ hr _ => hc (.inl hr)
    have hother : ¬(c = '\r' ∨ c = '\n') := hc
    rw [List.cons_append, pieces.eq_3 c _ hnot, if_neg hother, ih hline, lengthen_lengthen]
    rfl

theorem pieces_break {ending rest : List Char} (h : ending ∈ breaks)
    (hapart : ending = ['\r'] → rest.head? ≠ some '\n') :
    pieces (ending ++ rest) = ⟨[], ending⟩ :: pieces rest := by
  simp only [breaks, List.mem_cons, List.not_mem_nil, or_false] at h
  rcases h with rfl | rfl | rfl
  · rfl
  · have hnot : ∀ tail, '\r' = '\r' → rest = '\n' :: tail → False := by
      rintro tail - rfl
      exact hapart rfl rfl
    rw [List.singleton_append, pieces.eq_3 '\r' rest hnot, if_pos (.inl rfl)]
  · have hnot : ∀ tail, '\n' = '\r' → rest = '\n' :: tail → False := by
      intro tail heq
      exact absurd heq (by decide)
    rw [List.singleton_append, pieces.eq_3 '\n' rest hnot, if_pos (.inr rfl)]

theorem Shaped.pieces_eq {ps : List Piece} (h : Shaped ps) (hapart : Apart ps) :
    pieces (ps.flatMap Piece.whole) = ps := by
  induction h with
  | nil => rfl
  | @last line hline hne =>
    have hwhole : [Piece.mk line []].flatMap Piece.whole = line ++ [] := by simp [Piece.whole]
    rw [hwhole, pieces_append hline]
    simp [pieces, Text.lengthen, hne]
  | @cons line ending ps hline hending hps ih =>
    have hrest := ih fun before p after heq => hapart (⟨line, ending⟩ :: before) p after (heq ▸ rfl)
    rw [List.flatMap_cons, Piece.whole, List.append_assoc, pieces_append hline,
      pieces_break hending (hapart [] ⟨line, ending⟩ ps rfl), hrest, lengthen_cons, List.append_nil]

theorem splits_iff {s : List Char} {ps : List Piece} : Splits s ps ↔ ps = pieces s := by
  constructor
  · rintro ⟨hshaped, hapart, rfl⟩
    exact (hshaped.pieces_eq hapart).symm
  · rintro rfl
    exact splits_pieces s

/-! ### Stretches without a break -/

theorem infix_of_append_cons {stretch before after : List Char} {c : Char} (hc : c ∉ stretch)
    (h : stretch <:+: before ++ c :: after) : stretch <:+: before ∨ stretch <:+: after := by
  obtain ⟨x, y, hxy⟩ := h
  rcases List.append_eq_append_iff.mp hxy with ⟨z, hbefore, -⟩ | ⟨z, hleft, hright⟩
  · exact .inl ⟨x, z, hbefore.symm⟩
  · cases z with
    | nil => exact .inl ⟨x, [], by simpa using hleft⟩
    | cons d z =>
      obtain ⟨rfl, rfl⟩ := List.cons.inj hright
      rcases List.append_eq_append_iff.mp hleft with ⟨w, -, hstretch⟩ | ⟨w, -, hw⟩
      · simp [hstretch] at hc
      · cases w with
        | nil =>
          have hmem : c ∈ [] ++ stretch := hw ▸ List.mem_cons_self
          exact absurd hmem hc
        | cons e w =>
          obtain ⟨-, rfl⟩ := List.cons.inj hw
          exact .inr ⟨w, y, rfl⟩

theorem infix_of_append_break {stretch before ending after : List Char} (hending : ending ∈ breaks)
    (hclean : ∀ c ∈ stretch, ¬IsBreak c) (hne : stretch ≠ [])
    (h : stretch <:+: before ++ (ending ++ after)) : stretch <:+: before ∨ stretch <:+: after := by
  have hr : '\r' ∉ stretch := fun hmem => hclean _ hmem (.inl rfl)
  have hn : '\n' ∉ stretch := fun hmem => hclean _ hmem (.inr rfl)
  simp only [breaks, List.mem_cons, List.not_mem_nil, or_false] at hending
  rcases hending with rfl | rfl | rfl
  · rcases infix_of_append_cons hr h with hbefore | hafter
    · exact .inl hbefore
    · have hrest : stretch <:+: [] ++ '\n' :: after := hafter
      rcases infix_of_append_cons hn hrest with hnil | hafter
      · exact absurd (List.infix_nil.mp hnil) hne
      · exact .inr hafter
  · exact infix_of_append_cons hr h
  · exact infix_of_append_cons hn h

theorem Shaped.exists_line {ps : List Piece} (hps : Shaped ps) {stretch : List Char}
    (hclean : ∀ c ∈ stretch, ¬IsBreak c) (hne : stretch ≠ [])
    (h : stretch <:+: ps.flatMap Piece.whole) : ∃ p ∈ ps, stretch <:+: p.line := by
  induction hps with
  | nil => exact absurd (List.infix_nil.mp h) hne
  | last hline hline_ne => exact ⟨_, List.mem_cons_self, by simpa [Piece.whole] using h⟩
  | cons hline hending hps ih =>
    rw [List.flatMap_cons, Piece.whole, List.append_assoc] at h
    rcases infix_of_append_break hending hclean hne h with hfirst | hrest
    · exact ⟨_, List.mem_cons_self, hfirst⟩
    · obtain ⟨p, hp, hinfix⟩ := ih hrest
      exact ⟨p, List.mem_cons_of_mem _ hp, hinfix⟩

end Text

namespace Buffer

open Text (Piece Splits IsBreak)

/-- Whatever was asked of a buffer, its lines are those of the one way to split its text. An empty text
has none, and a stretch of the text without CR and LF lies within one of them. -/
theorem lines_split_uniquely (name : String) (firstLine : Int) (past : List Access) {s : List Char}
    (hsource : (({ name, firstLine } : Buffer).run past).2.source = .ok s) :
    ∃ ls, (({ name, firstLine } : Buffer).run past).2.lines = .ok ls ∧
      (∀ ls', (∃ ps, Splits s ps ∧ ps.map Piece.line = ls') ↔ ls' = ls) ∧
      (s = [] → ls = []) ∧
      ∀ stretch : List Char, stretch ≠ [] → stretch <:+: s → (∀ c ∈ stretch, ¬IsBreak c) →
        ∃ l ∈ ls, stretch <:+: l := by
  have hfresh : ({ name, firstLine } : Buffer).Consistent := fun ls hls => nomatch hls
  have htext : (({ name, firstLine } : Buffer).run past).2.text = some s := by
    unfold source at hsource
    split at hsource
    next text htext => exact htext.trans (congrArg some (Except.ok.inj hsource))
    next => cases hsource
  refine ⟨Text.lines s, ((hfresh.run past).holds htext).lines_eq, ?_, ?_, ?_⟩
  · intro ls'
    simp only [Text.splits_iff, exists_eq_left, Text.lines_eq_map, eq_comm]
  · rintro rfl
    rfl
  · intro stretch hne hinfix hclean
    rw [← Text.flatMap_whole_pieces s] at hinfix
    obtain ⟨p, hp, hline⟩ := (Text.pieces_shaped s).exists_line hclean hne hinfix
    rw [Text.lines_eq_map]
    exact ⟨p.line, List.mem_map_of_mem hp, hline⟩

/-- CR, then CR LF, then LF; the other characters break lines elsewhere. -/
def unevenText : List Char :=
  ['a', '\r', '\r', '\n', '\n', 'b', '\x0c', '\u0085', '\u2028', 'c']

theorem lines_split_uniquely_of_unevenText :
    let past : List Access :=
      [.assign (.text []), .lines, .assign (.text (unevenText.map CodePoint.ofChar)), .line 2]
    let b := (({ name := "m", firstLine := 0 } : Buffer).run past).2
    b.source = .ok unevenText ∧
      b.lines = .ok [['a'], [], [], ['b', '\x0c', '\u0085', '\u2028', 'c']] ∧
      ∀ ps, Splits unevenText ps →
        ps.map Piece.line = [['a'], [], [], ['b', '\x0c', '\u0085', '\u2028', 'c']] := by
  intro past b
  have hsource : b.source = .ok unevenText := rfl
  have hlines : b.lines = .ok [['a'], [], [], ['b', '\x0c', '\u0085', '\u2028', 'c']] := rfl
  obtain ⟨ls, hls, hunique, -, -⟩ := lines_split_uniquely "m" 0 past hsource
  obtain rfl := Except.ok.inj (hlines.symm.trans hls)
  exact ⟨hsource, hlines, fun ps hps => (hunique _).mp ⟨ps, hps, rfl⟩⟩

end Buffer

end SourceUnit
