import SourceUnit.Backend
import SourceUnit.Lexer
import SourceUnit.Proofs.BufferMemory
import SourceUnit.Proofs.Chunks

/-! Where tokens stand. The lexer counts the chunks it reads, so that a token's text is what the lines
of the source have at its span. -/
namespace SourceUnit.Lexer

open Text (chomp chunks)

/-! ### Positions in chunks -/

/-- The characters from a position up to another one; lines and columns count from zero. -/
def between (cs : List (List Char)) (i j k m : Nat) : List Char :=
  (cs.flatten.take ((cs.take k).flatten.length + m)).drop ((cs.take i).flatten.length + j)

variable {cs : List (List Char)} {c : List Char} {i j k m n : Nat}

theorem between_eq (hik : i ≤ k) (hc : cs[k]? = some c) (hm : m ≤ c.length) (j : Nat) :
    between cs i j k m = (((cs.take k).drop i).flatten ++ c.take m).drop j := by
  obtain ⟨hlt, rfl⟩ := List.getElem?_eq_some_iff.mp hc
  have hall : cs.flatten = (cs.take k).flatten ++ (cs[k] ++ (cs.drop (k + 1)).flatten) := by
    rw [← List.flatten_cons, ← List.flatten_append, ← List.drop_eq_getElem_cons hlt,
      List.take_append_drop]
  have hbefore : (cs.take k).flatten = (cs.take i).flatten ++ ((cs.take k).drop i).flatten := by
    have htake : cs.take i = (cs.take k).take i := by rw [List.take_take, Nat.min_eq_left hik]
    rw [htake, ← List.flatten_append, List.take_append_drop]
  unfold between
  rw [hall, List.take_length_add_append, List.take_append_of_le_length hm, hbefore,
    List.append_assoc, List.drop_length_add_append]

theorem between_line (hc : cs[i]? = some c) (hm : m ≤ c.length) (j : Nat) :
    between cs i j i m = (c.take m).drop j := by
  rw [between_eq (Nat.le_refl i) hc hm]
  simp

theorem le_length_chomp (h : c.drop j ≠ []) : j ≤ (chomp c).length := by
  have hlt : j < c.length := Nat.lt_of_not_le fun hle => h (List.drop_eq_nil_of_le hle)
  have := Text.length_le_chomp c
  omega

/-- A token's text is what stands at its span, and the span starts and ends in lines of the text. The
break of a line counts as a character at its end. -/
structure Stands (cs : List (List Char)) (t : RawToken) (i j k m : Nat) : Prop where
  span : t.span = ⟨i + 1, j, k + 1, m⟩
  text : t.text.toList = between cs i j k m
  start : ∃ c, cs[i]? = some c ∧ j ≤ (chomp c).length
  stop : ∃ c, cs[k]? = some c ∧ m ≤ (chomp c).length + 1

/-- A string that was opened at a position, with all its text up to a line. -/
structure Opened (cs : List (List Char)) (n : Nat) (p : Pending) (i j : Nat) : Prop where
  line : p.line = i + 1
  col : p.col = j
  before : i < n
  start : ∃ c, cs[i]? = some c ∧ j ≤ (chomp c).length
  text : p.text = ((cs.take n).drop i).flatten.drop j

def Placed (cs : List (List Char)) (tokens : List RawToken) : Prop :=
  ∀ t ∈ tokens, Backend.isShown t = true → ∃ i j k m, Stands cs t i j k m

/-- The state after some lines. -/
structure After (cs : List (List Char)) (n : Nat) (st : State) : Prop where
  line : st.line = n
  tokens : Placed cs st.tokens
  pending : ∀ p, st.pending = some p → ∃ i j, Opened cs n p i j

variable {st : State}

theorem Placed.cons {t : RawToken} {tokens : List RawToken} (h : Placed cs tokens)
    (ht : Backend.isShown t = true → ∃ i j k m, Stands cs t i j k m) : Placed cs (t :: tokens) := by
  intro t' hmem hshown
  rcases List.mem_cons.mp hmem with rfl | hmem
  · exact ht hshown
  · exact h t' hmem hshown

theorem After.emit (h : After cs n st) {kind : Int} {text : List Char} {span : Span}
    (ht : Backend.isShown ⟨kind, String.ofList text, span⟩ = true →
      ∃ i j k m, Stands cs ⟨kind, String.ofList text, span⟩ i j k m) :
    After cs n (st.emit kind text span) :=
  ⟨h.line, h.tokens.cons ht, h.pending⟩

theorem After.emitHere (h : After cs (n + 1) st) (hc : cs[n]? = some c) (hj : j ≤ (chomp c).length)
    {text : List Char} (htext : text <+: c.drop j) (kind : Int) :
    After cs (n + 1) (st.emitHere kind text j) := by
  have hle : j + text.length ≤ c.length := by
    have hlength := htext.length_le
    have := Text.length_chomp_le c
    rw [List.length_drop] at hlength
    omega
  apply h.emit
  intro _
  refine ⟨n, j, n, j + text.length, ?_, ?_, ⟨c, hc, hj⟩, c, hc, ?_⟩
  · simp [h.line]
  · rw [between_line hc hle, ← List.take_drop, String.toList_ofList]
    exact List.prefix_iff_eq_take.mp htext
  · have := Text.length_le_chomp c
    omega

/-! ### Within a line -/

theorem exists_of_start_lineBreak {s : List Char} (h : start s = .lineBreak) :
    ∃ rest, s = '\n' :: rest := by
  unfold start at h
  split at h <;> grind

theorem take_succ_drop (hc : cs[n]? = some c) (hin : i ≤ n) :
    ((cs.take (n + 1)).drop i).flatten = ((cs.take n).drop i).flatten ++ c := by
  obtain ⟨hlt, rfl⟩ := List.getElem?_eq_some_iff.mp hc
  have hlength : i ≤ (cs.take n).length := by
    rw [List.length_take]
    omega
  rw [List.take_succ_eq_append_getElem hlt, List.drop_append_of_le_length hlength,
    List.flatten_append]
  simp

theorem opened_here (hc : cs[n]? = some c) (hj : j ≤ (chomp c).length) (quote : Char) (triple : Bool) :
    Opened cs (n + 1) ⟨c.drop j, (n + 1 : Nat), j, quote, triple⟩ n j where
  line := rfl
  col := rfl
  before := Nat.lt_succ_self n
  start := ⟨c, hc, hj⟩
  text := by rw [take_succ_drop hc (Nat.le_refl n)]; simp

/-- What is left of a line is the part of it from the column on; every token is cut off its front. -/
theorem After.inLine (h : After cs (n + 1) st) (hc : cs[n]? = some c) {col : Nat} {s : List Char}
    (hs : c.drop col = s) (fuel : Nat) : After cs (n + 1) (inLine st fuel col s) := by
  induction fuel generalizing st col s with
  | zero => exact h
  | succ fuel ih =>
    cases s with
    | nil => exact h
    | cons a rest =>
      unfold Lexer.inLine
      dsimp only
      -- White space only moves the column.
      generalize ((a :: rest).takeWhile isSpace).length = gap
      generalize hs' : (a :: rest).drop gap = s'
      have hdrop : c.drop (col + gap) = s' := by rw [← List.drop_drop, hs, hs']
      have hgo {st' : State} (k : Nat) (h' : After cs (n + 1) st') :
          After cs (n + 1) (Lexer.inLine st' fuel (col + gap + k) (s'.drop k)) :=
        ih h' (by rw [← List.drop_drop, hdrop])
      by_cases hnil : s' = []
      · subst hnil
        exact h
      · have hj : col + gap ≤ (chomp c).length := le_length_chomp (hdrop ▸ hnil)
        have hemit {st' : State} (h' : After cs (n + 1) st') (kind : Int) (k : Nat) :
            After cs (n + 1) (st'.emitHere kind (s'.take k) (col + gap)) :=
          h'.emitHere hc hj (hdrop ▸ List.take_prefix k s') kind
        have hopen (quote : Char) (triple : Bool) :
            Opened cs (n + 1) ⟨s', st.line, (col + gap : Nat), quote, triple⟩ n (col + gap) := by
          rw [← hdrop, h.line]
          exact opened_here hc hj quote triple
        cases hstart : start s' with
        | nothing => exact h
        | joining => exact ⟨h.line, h.tokens, h.pending⟩
        | comment k => exact hgo k (hemit h _ k)
        | number k => exact hgo k (hemit h _ k)
        | word k => exact hgo k (hemit h _ k)
        | operator k =>
          have hdepth (depth : Int) : After cs (n + 1) { st with depth } :=
            ⟨h.line, h.tokens, h.pending⟩
          exact hgo k (hemit (hdepth _) _ k)
        | lineBreak =>
          obtain ⟨rest', rfl⟩ := exists_of_start_lineBreak hstart
          exact hgo 1 (hemit h _ 1)
        | string k =>
          dsimp only
          split
          · exact ⟨h.line, h.tokens, by rintro p ⟨⟩; exact ⟨n, _, hopen _ _⟩⟩
          · exact hgo k (hemit h _ k)
        | triple k =>
          dsimp only
          split
          · exact hgo _ (hemit h _ _)
          · exact ⟨h.line, h.tokens, by rintro p ⟨⟩; exact ⟨n, _, hopen _ _⟩⟩
        | unknown =>
          -- The one case that goes on from before the white space.
          have hcol : col ≤ (chomp c).length := Nat.le_trans (Nat.le_add_right col gap) hj
          have hone : [a] <+: c.drop col := by
            rw [hs]
            exact ⟨rest, rfl⟩
          exact ih (h.emitHere hc hcol hone _) (by rw [← List.drop_drop, hs]; rfl)

/-! ### Lines -/

theorem After.closeBlocks (h : After cs n st) (column size : Nat) (blocks : List Nat) :
    After cs n (closeBlocks st column size blocks) := by
  induction blocks generalizing st with
  | nil => exact ⟨h.line, h.tokens, h.pending⟩
  | cons b bs ih =>
    unfold Lexer.closeBlocks
    split
    · exact ih (h.emit (by simp [Backend.isShown]))
    · exact ⟨h.line, h.tokens, h.pending⟩

def Step.state : Step → State
  | .next st => st
  | .stop st => st
  | .broken st _ => st

/-- What comes before the break of a line ends within the line. -/
theorem length_takeWhile_le_chomp (h : c.drop j ≠ []) :
    j + ((c.drop j).takeWhile (· != '\n')).length ≤ (chomp c).length := by
  have hlt : j < c.length := Nat.lt_of_not_le fun hle => h (List.drop_eq_nil_of_le hle)
  unfold chomp
  split
  next hlast =>
    obtain ⟨init, rfl⟩ := List.getLast?_eq_some_iff.mp hlast
    have hj : j ≤ init.length := by simpa using Nat.lt_succ_iff.mp (by simpa using hlt)
    rw [List.drop_append_of_le_length hj, List.dropLast_concat, List.takeWhile_append]
    have := (List.takeWhile_prefix (· != '\n') (l := init.drop j)).length_le
    split <;> simp <;> grind
  next =>
    have := (List.takeWhile_prefix (· != '\n') (l := c.drop j)).length_le
    grind

theorem After.freshLine (h : After cs (n + 1) st) (hc : cs[n]? = some c) :
    After cs (n + 1) (freshLine st c).state := by
  unfold Lexer.freshLine
  generalize indentation 0 0 c = place
  obtain ⟨column, size⟩ := place
  dsimp only
  split
  next => exact h
  next rest hdrop =>
    have hne : c.drop size ≠ [] := by simp [hdrop]
    have htext : (c.drop size).takeWhile (· != '\n') = '#' :: rest.takeWhile (· != '\n') := by
      rw [hdrop]
      rfl
    have hcomment := h.emitHere hc (le_length_chomp hne)
      (List.takeWhile_prefix (· != '\n')) TokenKind.comment
    have hbreak := hcomment.emitHere hc (length_takeWhile_le_chomp hne)
      (List.prefix_refl _) TokenKind.blankLine
    rwa [htext] at hbreak
  next rest hdrop =>
    exact h.emitHere hc (le_length_chomp (by simp [hdrop])) (List.prefix_refl _) _
  next =>
    have hread {st' : State} (h' : After cs (n + 1) st') (fault : LexFault) :
        After cs (n + 1) (if column < st'.blocks.head?.getD 0 ∧ ¬ st'.blocks.contains column then
          Step.broken st' fault
        else .next (Lexer.inLine (Lexer.closeBlocks st' column size st'.blocks) (c.length + 1) size
          (c.drop size))).state := by
      split
      · exact h'
      · exact (h'.closeBlocks _ _ _).inLine hc rfl _
    split
    · have hopen : After cs (n + 1) { st with blocks := column :: st.blocks } :=
        ⟨h.line, h.tokens, h.pending⟩
      exact hread (hopen.emitHere hc (Nat.zero_le _) (List.take_prefix size c) _) _
    · exact hread h _

theorem length_le_of_tripleRest {quote : Char} {s : List Char} {k : Nat}
    (h : tripleRest quote s = some k) : k ≤ s.length := by
  fun_induction tripleRest quote s generalizing k with
  | case1 | case3 | case6 => simp at h
  | case4 c rest _ _ hclose =>
    have htwo : (rest.take 2).length = 2 := by simp_all
    grind
  | case2 | case5 => grind [Option.map_eq_some_iff]

theorem length_le_of_singleRest {quote : Char} {s : List Char} {k : Nat}
    (h : singleRest quote s = some k) : k ≤ s.length := by
  fun_induction singleRest quote s generalizing k <;> grind [Option.map_eq_some_iff]

theorem Opened.le_length {p : Pending} (hp : Opened cs n p i j) :
    j ≤ ((cs.take n).drop i).flatten.length := by
  obtain ⟨c, hc, hj⟩ := hp.start
  have hmem : c ∈ (cs.take n).drop i := by
    apply List.mem_of_getElem? (i := 0)
    simp [hp.before, hc]
  exact Nat.le_trans (Nat.le_trans hj (Text.length_chomp_le c))
    (List.sublist_flatten_of_mem hmem).length_le

/-- A string up to a column of the next line. -/
theorem Opened.stands {p : Pending} (hp : Opened cs n p i j) (hc : cs[n]? = some c)
    (hk : k ≤ c.length) (kind : Int) :
    Stands cs ⟨kind, String.ofList (p.text ++ c.take k), ⟨p.line, p.col, n + 1, k⟩⟩ i j n k where
  span := by rw [hp.line, hp.col]
  text := by
    rw [String.toList_ofList, between_eq (Nat.le_of_lt hp.before) hc hk,
      List.drop_append_of_le_length hp.le_length, hp.text]
  start := hp.start
  stop := ⟨c, hc, Nat.le_trans hk (Text.length_le_chomp c)⟩

theorem After.pendingLine {p : Pending} (h : After cs (n + 1) { st with pending := none })
    (hp : Opened cs n p i j) (hc : cs[n]? = some c) :
    After cs (n + 1) (pendingLine st p c).state := by
  have hline : st.line = n + 1 := h.line
  unfold Lexer.pendingLine
  dsimp only
  split
  next k hstop =>
    have hk : k ≤ c.length := by
      split at hstop
      · exact length_le_of_tripleRest hstop
      · exact length_le_of_singleRest hstop
    have hclosed : After cs (n + 1) { st with pending := none, strict := false } :=
      ⟨h.line, h.tokens, h.pending⟩
    have hemit := hclosed.emit fun _ => ⟨i, j, n, k, hp.stands hc hk TokenKind.string⟩
    rw [← hline] at hemit
    exact hemit.inLine hc rfl _
  next =>
    split
    · have hemit := h.emit fun _ =>
        ⟨i, j, n, c.length, hp.stands hc (Nat.le_refl _) TokenKind.errorToken⟩
      rw [List.take_length, ← hline] at hemit
      exact hemit
    · refine ⟨h.line, h.tokens, ?_⟩
      rintro _ ⟨⟩
      refine ⟨i, j, hp.line, hp.col, Nat.lt_succ_of_lt hp.before, hp.start, ?_⟩
      rw [take_succ_drop hc (Nat.le_of_lt hp.before), List.drop_append_of_le_length hp.le_length,
        hp.text]

theorem After.step (h : After cs n st) (hc : cs[n]? = some c) :
    After cs (n + 1) (step st c).state := by
  have hline : st.line + 1 = (n + 1 : Nat) := by rw [h.line]; rfl
  unfold Lexer.step
  dsimp only
  split
  next p hpending =>
    obtain ⟨i, j, hp⟩ := h.pending p hpending
    have hfree : After cs (n + 1) { st with line := st.line + 1, pending := none } :=
      ⟨hline, h.tokens, by simp⟩
    exact hfree.pendingLine hp hc
  next hpending =>
    have hfree (joined : Bool) : After cs (n + 1) { st with line := st.line + 1, joined } :=
      ⟨hline, h.tokens, by simp [hpending]⟩
    split
    · exact (hfree st.joined).freshLine hc
    · exact (hfree false).inLine hc rfl _

/-! ### The whole text -/

/-- The last line gets a token for the break it lacks only if the text ends with it. -/
theorem Placed.finalNewline (h : Placed cs st.tokens) {lastLine : Option (List Char)}
    (hlast : ∀ l, lastLine = some l → l.getLast? = some '\n' ∨
      ∃ init, cs = init ++ [l] ∧ st.line = init.length + 2) :
    Placed cs (finalNewline st lastLine).tokens := by
  unfold Lexer.finalNewline
  split
  next l =>
    dsimp only
    split
    next => exact h
    next hopen =>
      have hbreak : l.getLast? ≠ some '\n' := fun hbreak => hopen (.inl hbreak)
      obtain ⟨init, rfl, hline⟩ := (hlast l rfl).resolve_left hbreak
      have hchomp : chomp l = l := if_neg hbreak
      have hget : (init ++ [l])[init.length]? = some l := by simp
      have hnumber : st.line - 1 = init.length + 1 := by omega
      refine h.cons fun _ => ⟨init.length, l.length, init.length, l.length + 1, ?_, ?_, ?_, ?_⟩
      · rw [hnumber]
        rfl
      · simp [between]
      · exact ⟨l, hget, Nat.le_of_eq (by rw [hchomp])⟩
      · exact ⟨l, hget, Nat.le_of_eq (by rw [hchomp])⟩
  next => exact h

theorem Placed.finish (h : Placed cs st.tokens) (fault : Option LexFault) :
    Placed cs (finish st fault).tokens :=
  fun t ht => h t (List.mem_reverse.mp ht)

theorem Placed.close (h : Placed cs st.tokens) {lastLine : Option (List Char)}
    (hlast : ∀ l, lastLine = some l → l.getLast? = some '\n' ∨
      ∃ init, cs = init ++ [l] ∧ st.line = init.length + 2) :
    Placed cs (close st lastLine).tokens := by
  have hfinal := h.finalNewline hlast
  intro t ht hshown
  simp only [Lexer.close, Lexer.finish, List.mem_reverse, List.cons_append, List.mem_cons,
    List.mem_append, List.mem_map] at ht
  rcases ht with rfl | ⟨_, _, rfl⟩ | ht
  · simp [Backend.isShown] at hshown
  · simp [Backend.isShown] at hshown
  · exact hfinal t ht hshown

theorem After.ended (h : After cs cs.length st) : Placed cs (ended st cs.getLast?).tokens := by
  have htokens : Placed cs { st with line := st.line + 1 }.tokens := h.tokens
  unfold Lexer.ended
  dsimp only
  split
  next => exact htokens.finish _
  next =>
    split
    · apply htokens.close
      intro l hl
      obtain ⟨init, rfl⟩ := List.getLast?_eq_some_iff.mp hl
      refine .inr ⟨init, rfl, ?_⟩
      have hline : st.line = ((init ++ [l]).length : Nat) := h.line
      rw [List.length_append, List.length_singleton] at hline
      dsimp only
      omega
    · exact htokens.finish _

/-- The text is what was read before and the rest of it; a line that is followed by another one has a
break. -/
theorem After.run (hbreaks : ∀ c ∈ cs.dropLast, c.getLast? = some '\n')
    (before : List (List Char)) {rest : List (List Char)} (hcs : before ++ rest = cs)
    (h : After cs before.length st) :
    Placed cs (run st before.getLast? rest).tokens := by
  induction rest generalizing st before with
  | nil =>
    rw [List.append_nil] at hcs
    subst hcs
    exact h.ended
  | cons l ls ih =>
    have hc : cs[before.length]? = some l := by simp [← hcs]
    have hstep := h.step hc
    unfold Lexer.run
    cases hs : Lexer.step st l with
    | next st' =>
      rw [hs] at hstep
      have hrest := ih (before ++ [l]) (by simp [← hcs]) (by simpa using hstep)
      rwa [List.getLast?_concat] at hrest
    | stop st' =>
      -- This line is left unread, so the one before it is not the last of the text.
      rw [hs] at hstep
      apply hstep.tokens.close
      intro l' hl'
      refine .inl (hbreaks l' ?_)
      rw [← hcs, List.dropLast_append_cons]
      exact List.mem_append_left _ (List.mem_of_getLast? hl')
    | broken st' fault =>
      rw [hs] at hstep
      exact hstep.tokens.finish _

theorem lex_placed (s : List Char) : Placed (chunks s) (lex s).tokens := by
  have hstart : After (chunks s) 0 {} := ⟨rfl, by simp [Placed], by simp⟩
  exact After.run (fun _ => Text.getLast?_of_mem_dropLast_chunks) [] rfl hstart

theorem between_chunks (s : List Char) (i j k m : Nat) :
    between (chunks s) i j k m = Text.stretch (Text.unifyBreaks s) i j k m := by
  unfold between Text.stretch
  rw [Text.flatten_chunks, Text.lineStart_unifyBreaks, Text.lineStart_unifyBreaks, List.drop_take]

theorem line_of_chunk {s : List Char} {b : Buffer} (h : b.Holds s) (hfirst : b.firstLine = 1)
    (n : Nat) : b.line (n + 1) = .ok ((chunks s)[n]?.map chomp) := by
  rw [h.line_of_lines hfirst, ← Text.map_chomp_chunks, List.getElem?_map]

/-- The lexer and the buffer break a text into the same lines: the chunks are the lines, each with LF
for its break, and the lines that a token names are lines of the buffer. -/
theorem lex_reads_buffer_lines (s : List Char) :
    (chunks s).flatten = Text.unifyBreaks s ∧
      Text.lines (Text.unifyBreaks s) = Text.lines s ∧
      (chunks s).map chomp = Text.lines s ∧
      (∀ line ∈ Text.lines s, ∀ c ∈ line, ¬Text.IsBreak c) ∧
      (∀ chunk ∈ (chunks s).dropLast, chunk.getLast? = some '\n') ∧
      ((∃ chunk, (chunks s).getLast? = some chunk ∧ chunk.getLast? ≠ some '\n') ↔
        s ≠ [] ∧ ∀ c, s.getLast? = some c → ¬Text.IsBreak c) ∧
      ∀ b : Buffer, b.Holds s → b.firstLine = 1 →
        (∀ n : Nat, b.line (n + 1) = .ok ((chunks s)[n]?.map chomp)) ∧
        ∀ t ∈ (lex s).tokens.filter Backend.isShown, ∃ (i j k m : Nat) (first last : List Char),
          t.span = ⟨i + 1, j, k + 1, m⟩ ∧
          b.line (i + 1) = .ok (some first) ∧ j ≤ first.length ∧
          b.line (k + 1) = .ok (some last) ∧ m ≤ last.length + 1 ∧
          t.text.toList = Text.stretch (Text.unifyBreaks s) i j k m := by
  refine ⟨Text.flatten_chunks s, Text.lines_unifyBreaks s, Text.map_chomp_chunks s, ?_,
    fun _ => Text.getLast?_of_mem_dropLast_chunks, Text.last_chunk_open_iff s, ?_⟩
  · intro line hline
    rw [Text.lines_eq_map] at hline
    obtain ⟨p, hp, rfl⟩ := List.mem_map.mp hline
    exact (Text.pieces_shaped s).line p hp
  · intro b hb hfirst
    refine ⟨line_of_chunk hb hfirst, ?_⟩
    intro t ht
    obtain ⟨hmem, hshown⟩ := List.mem_filter.mp ht
    obtain ⟨i, j, k, m, h⟩ := lex_placed s t hmem hshown
    obtain ⟨first, hfirstLine, hj⟩ := h.start
    obtain ⟨last, hlastLine, hm⟩ := h.stop
    refine ⟨i, j, k, m, chomp first, chomp last, h.span, ?_, hj, ?_, hm, ?_⟩
    · rw [line_of_chunk hb hfirst, hfirstLine, Option.map_some]
    · rw [line_of_chunk hb hfirst, hlastLine, Option.map_some]
    · rw [h.text, between_chunks]

def mixedBreaks : List Char := "a\r\n\r'''b\rc'''".toList

theorem lex_reads_buffer_lines_of_mixedBreaks :
    let b : Buffer := { name := "m", text := some mixedBreaks }
    let t : RawToken := ⟨TokenKind.string, "'''b\nc'''", ⟨3, 0, 4, 4⟩⟩
    b.Holds mixedBreaks ∧ b.firstLine = 1 ∧ t ∈ (lex mixedBreaks).tokens.filter Backend.isShown ∧
      b.line 4 = .ok ((chunks mixedBreaks)[3]?.map chomp) ∧
      t.text.toList = Text.stretch (Text.unifyBreaks mixedBreaks) 2 0 3 4 := by
  intro b t
  have hb : b.Holds mixedBreaks := ⟨rfl, fun _ h => nomatch h⟩
  have ht : t ∈ (lex mixedBreaks).tokens.filter Backend.isShown := by decide +kernel
  obtain ⟨hlines, htokens⟩ := (lex_reads_buffer_lines mixedBreaks).2.2.2.2.2.2 b hb rfl
  obtain ⟨i, j, k, m, first, last, hspan, -, -, -, -, htext⟩ := htokens t ht
  obtain ⟨rfl, rfl, rfl, rfl⟩ : i = 2 ∧ j = 0 ∧ k = 3 ∧ m = 4 := by grind
  exact ⟨hb, rfl, ht, hlines 3, htext⟩

end SourceUnit.Lexer
