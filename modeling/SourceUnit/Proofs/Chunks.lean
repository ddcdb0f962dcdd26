import SourceUnit.Proofs.Lines

/-! What a reader of lines sees of a text: the same lines in the same order, each with LF for its
break. -/
namespace SourceUnit.Text

/-! ### The shape of the pieces -/

def IsBreak (c : Char) : Prop := c = '\r' ∨ c = '\n'

def breaks : List (List Char) := [['\r', '\n'], ['\r'], ['\n']]

/-- Lines that breaks end, but for one at the end of the text that may go without. -/
inductive Shaped : List Piece → Prop
  | nil : Shaped []
  | last {line : List Char} (hline : ∀ c ∈ line, ¬IsBreak c) (hne : line ≠ []) :
    Shaped [⟨line, []⟩]
  | cons {line ending : List Char} {ps : List Piece} (hline : ∀ c ∈ line, ¬IsBreak c)
    (hending : ending ∈ breaks) (hps : Shaped ps) : Shaped (⟨line, ending⟩ :: ps)

theorem Shaped.lengthen {c : Char} {ps : List Piece} (hc : ¬IsBreak c) (h : Shaped ps) :
    Shaped (lengthen [c] ps) := by
  cases h with
  | nil => exact .last (by simpa using hc) (by simp)
  | last hline hne => exact .last (List.forall_mem_cons.mpr ⟨hc, hline⟩) (by simp)
  | cons hline hending hps => exact .cons (List.forall_mem_cons.mpr ⟨hc, hline⟩) hending hps

theorem pieces_shaped (s : List Char) : Shaped (pieces s) := by
  fun_induction pieces s with
  | case1 => exact .nil
  | case2 rest ih => exact .cons (by simp) (by simp [breaks]) ih
  | case3 c rest hnot hbreak ih => exact .cons (by simp) (by simpa [breaks] using hbreak) ih
  | case4 c rest hnot hbreak ih => exact ih.lengthen hbreak

theorem Shaped.line {ps : List Piece} (h : Shaped ps) : ∀ p ∈ ps, ∀ c ∈ p.line, ¬IsBreak c := by
  induction h with
  | nil => simp
  | last hline hne => simpa using hline
  | cons hline hending hps ih => exact List.forall_mem_cons.mpr ⟨hline, ih⟩

theorem Shaped.exists_last {ps : List Piece} (h : Shaped ps) (hne : ps ≠ []) :
    ∃ init p, ps = init ++ [p] ∧ (∀ q ∈ init, q.ending ∈ breaks) ∧
      (p.ending ∈ breaks ∨ p.ending = [] ∧ p.line ≠ []) := by
  induction h with
  | nil => exact absurd rfl hne
  | last hline hline_ne => exact ⟨[], _, rfl, by simp, .inr ⟨rfl, hline_ne⟩⟩
  | @cons line ending ps hline hending hps ih =>
    by_cases hempty : ps = []
    · subst hempty
      exact ⟨[], _, rfl, by simp, .inl hending⟩
    · obtain ⟨init, p, rfl, hinit, hp⟩ := ih hempty
      exact ⟨⟨line, ending⟩ :: init, p, rfl, List.forall_mem_cons.mpr ⟨hending, hinit⟩, hp⟩

/-! ### One kind of break -/

/-- The same line with LF for its break. -/
def Piece.unified (p : Piece) : Piece := ⟨p.line, if p.ending = [] then [] else ['\n']⟩

theorem unifyAfter_append (read before s : List Char) :
    unifyAfter (read ++ before) s = before.reverse ++ unifyAfter read s := by
  fun_induction unifyAfter read s with
  | case1 read => simp [unifyAfter]
  | case2 read rest ih => rw [unifyAfter, ← ih]; rfl
  | case3 read c rest hnot ih => rw [unifyAfter.eq_3 _ _ _ hnot, ← ih]; rfl

@[simp] theorem unifyBreaks_nil : unifyBreaks [] = [] := rfl

@[simp] theorem unifyBreaks_both (s : List Char) :
    unifyBreaks ('\r' :: '\n' :: s) = '\n' :: unifyBreaks s :=
  unifyAfter_append [] ['\n'] s

theorem unifyBreaks_cons {c : Char} {s : List Char} (h : ∀ rest, c = '\r' → s = '\n' :: rest → False) :
    unifyBreaks (c :: s) = (if c = '\r' then '\n' else c) :: unifyBreaks s := by
  unfold unifyBreaks
  rw [unifyAfter.eq_3 _ _ _ h]
  exact unifyAfter_append [] [_] s

theorem unifyBreaks_break {c : Char} {s : List Char}
    (hnot : ∀ rest, c = '\r' → s = '\n' :: rest → False) (hbreak : c = '\r' ∨ c = '\n') :
    unifyBreaks (c :: s) = '\n' :: unifyBreaks s := by
  rw [unifyBreaks_cons hnot]
  rcases hbreak with rfl | rfl <;> rfl

theorem unifyBreaks_char {c : Char} {s : List Char} (hbreak : ¬(c = '\r' ∨ c = '\n')) :
    unifyBreaks (c :: s) = c :: unifyBreaks s := by
  have hr : ¬c = '\r' := fun h => hbreak (.inl h)
  rw [unifyBreaks_cons fun _ h _ => hr h, if_neg hr]

theorem map_unified_lengthen (start : List Char) (ps : List Piece) :
    (lengthen start ps).map Piece.unified = lengthen start (ps.map Piece.unified) := by
  cases ps with
  | nil => cases start <;> simp [lengthen, Piece.unified]
  | cons p ps => simp [lengthen, Piece.unified]

/-- The two steps from a text to chunks, with the accumulators of the second: they hold the reversed
start of the current chunk and the chunks before it. -/
theorem chunksOf_unifyBreaks (chunk : List Char) (done : List (List Char)) (s : List Char) :
    chunksOf chunk done (unifyBreaks s) =
      done.reverse ++ (lengthen chunk.reverse ((pieces s).map Piece.unified)).map Piece.whole := by
  induction s using pieces.induct generalizing chunk done with
  | case1 => cases chunk <;> simp [chunksOf, pieces, lengthen, Piece.whole]
  | case2 rest ih => simp [chunksOf, ih, pieces, Piece.whole, Piece.unified]
  | case3 c rest hnot hbreak ih =>
    rw [unifyBreaks_break hnot hbreak]
    simp [chunksOf, ih, pieces, hbreak, Piece.whole, Piece.unified]
  | case4 c rest hnot hbreak ih =>
    obtain ⟨hr, hn⟩ := not_or.mp hbreak
    rw [unifyBreaks_char hbreak]
    simp [chunksOf, ih, pieces, hr, hn, map_unified_lengthen]

theorem chunks_eq_map (s : List Char) :
    chunks s = ((pieces s).map Piece.unified).map Piece.whole := by
  unfold chunks
  rw [chunksOf_unifyBreaks]
  simp

theorem pieces_unifyBreaks (s : List Char) : pieces (unifyBreaks s) = (pieces s).map Piece.unified := by
  induction s using pieces.induct with
  | case1 => rfl
  | case2 rest ih => simp [pieces, ih, Piece.unified]
  | case3 c rest hnot hbreak ih =>
    rw [unifyBreaks_break hnot hbreak]
    simp [pieces, ih, hbreak, Piece.unified]
  | case4 c rest hnot hbreak ih =>
    obtain ⟨hr, hn⟩ := not_or.mp hbreak
    rw [unifyBreaks_char hbreak]
    simp [pieces, ih, hr, hn, map_unified_lengthen]

theorem lines_unifyBreaks (s : List Char) : lines (unifyBreaks s) = lines s := by
  simp [lines_eq_map, pieces_unifyBreaks, Piece.unified]

theorem chunks_eq_whole (s : List Char) : chunks s = (pieces (unifyBreaks s)).map Piece.whole := by
  rw [chunks_eq_map, pieces_unifyBreaks]

theorem flatten_chunks (s : List Char) : (chunks s).flatten = unifyBreaks s := by
  rw [chunks_eq_whole, ← List.flatMap_def, flatMap_whole_pieces]

theorem lineStart_unifyBreaks (k : Nat) (s : List Char) :
    lineStart k (unifyBreaks s) = ((chunks s).take k).flatten.length := by
  rw [lineStart_eq, chunks_eq_whole, ← List.map_take, List.flatMap_def]

/-! ### Chunks and lines -/

/-- A chunk without its break. -/
def chomp (chunk : List Char) : List Char :=
  if chunk.getLast? = some '\n' then chunk.dropLast else chunk

theorem length_le_chomp (chunk : List Char) : chunk.length ≤ (chomp chunk).length + 1 := by
  unfold chomp
  split
  · rw [List.length_dropLast]
    omega
  · omega

theorem length_chomp_le (chunk : List Char) : (chomp chunk).length ≤ chunk.length := by
  unfold chomp
  split <;> simp

theorem chomp_unified {p : Piece} (h : ∀ c ∈ p.line, ¬IsBreak c) : chomp p.unified.whole = p.line := by
  by_cases hending : p.ending = []
  · have hlast : p.line.getLast? ≠ some '\n' := fun hlast =>
      h '\n' (List.mem_of_getLast? hlast) (.inr rfl)
    simp [Piece.unified, Piece.whole, hending, chomp, hlast]
  · simp [Piece.unified, Piece.whole, hending, chomp]

theorem map_chomp_chunks (s : List Char) : (chunks s).map chomp = lines s := by
  rw [chunks_eq_map, lines_eq_map, List.map_map, List.map_map]
  apply List.map_congr_left
  intro p hp
  exact chomp_unified ((pieces_shaped s).line p hp)

theorem getLast?_unified {p : Piece} (h : p.ending ∈ breaks) :
    p.unified.whole.getLast? = some '\n' := by
  have hne : p.ending ≠ [] := by
    rintro hnil
    simp [breaks, hnil] at h
  simp [Piece.unified, Piece.whole, hne]

theorem getLast?_of_mem_dropLast_chunks {s chunk : List Char} (h : chunk ∈ (chunks s).dropLast) :
    chunk.getLast? = some '\n' := by
  by_cases hempty : pieces s = []
  · simp [chunks_eq_map, hempty] at h
  · obtain ⟨init, p, hpieces, hinit, -⟩ := (pieces_shaped s).exists_last hempty
    rw [chunks_eq_map, hpieces] at h
    simp only [List.map_append, List.map_cons, List.map_nil, List.dropLast_concat, List.map_map,
      List.mem_map, Function.comp_apply] at h
    obtain ⟨q, hq, rfl⟩ := h
    exact getLast?_unified (hinit q hq)

/-- The last chunk goes without a break exactly if the text does. -/
theorem last_chunk_open_iff (s : List Char) :
    (∃ chunk, (chunks s).getLast? = some chunk ∧ chunk.getLast? ≠ some '\n') ↔
      s ≠ [] ∧ ∀ c, s.getLast? = some c → ¬IsBreak c := by
  by_cases hempty : pieces s = []
  · have hnil : s = [] := by
      rw [← flatMap_whole_pieces s, hempty]
      rfl
    simp [hnil, chunks_eq_map, pieces]
  · obtain ⟨init, p, hpieces, -, hp⟩ := (pieces_shaped s).exists_last hempty
    have hline := (pieces_shaped s).line p (by simp [hpieces])
    have hchunk : (chunks s).getLast? = some p.unified.whole := by
      simp [chunks_eq_map, hpieces]
    have hs : s = init.flatMap Piece.whole ++ p.whole := by
      conv => lhs; rw [← flatMap_whole_pieces s, hpieces]
      simp
    rcases hp with hclosed | ⟨hopen, hne⟩
    · have hlast : ∃ c, s.getLast? = some c ∧ IsBreak c := by
        rw [hs, Piece.whole]
        simp only [breaks, List.mem_cons, List.not_mem_nil, or_false] at hclosed
        rcases hclosed with hending | hending | hending <;> simp [hending, IsBreak]
      obtain ⟨c, hc, hbreak⟩ := hlast
      simp [hchunk, getLast?_unified hclosed, hc, hbreak]
    · have hwhole : p.unified.whole = p.line := by simp [Piece.unified, Piece.whole, hopen]
      obtain ⟨c, hc⟩ := Option.ne_none_iff_exists'.mp (mt List.getLast?_eq_none_iff.mp hne)
      have hlast : s.getLast? = some c := by
        rw [hs, Piece.whole, hopen]
        simp [hc]
      have hclean : ¬IsBreak c := hline c (List.mem_of_getLast? hc)
      have hs_ne : s ≠ [] := by
        rintro rfl
        cases hlast
      have hn : c ≠ '\n' := fun h => hclean (.inr h)
      simp [hchunk, hwhole, hc, hlast, hclean, hs_ne, hn]

end SourceUnit.Text
