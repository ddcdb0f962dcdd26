import SourceUnit.Text.Line

/-! The lines of a text together with their breaks. The two ways to split a text, with and without
its breaks, are two views of one list of pieces, and the pieces joined give the text back. -/
namespace SourceUnit.Text

/-- A line and the break that ends it. The break of a last line may be missing. -/
structure Piece where
  line : List Char
  ending : List Char
deriving DecidableEq, Repr

def Piece.whole (p : Piece) : List Char := p.line ++ p.ending

/-- Puts characters in front of the first line. -/
def lengthen (start : List Char) : List Piece → List Piece
  | [] => if start.isEmpty then [] else [⟨start, []⟩]
  | p :: ps => ⟨start ++ p.line, p.ending⟩ :: ps

def pieces : List Char → List Piece
  | [] => []
  | '\r' :: '\n' :: rest => ⟨[], ['\r', '\n']⟩ :: pieces rest
  | c :: rest =>
    if c = '\r' ∨ c = '\n' then ⟨[], [c]⟩ :: pieces rest else lengthen [c] (pieces rest)

@[simp] theorem lengthen_nil (ps : List Piece) : lengthen [] ps = ps := by
  cases ps with
  | nil => rfl
  | cons p ps => rfl

@[simp] theorem lengthen_cons (s line ending : List Char) (ps : List Piece) :
    lengthen s (⟨line, ending⟩ :: ps) = ⟨s ++ line, ending⟩ :: ps := rfl

@[simp] theorem lengthen_lengthen (s t : List Char) (ps : List Piece) :
    lengthen s (lengthen t ps) = lengthen (s ++ t) ps := by
  cases ps with
  | nil => cases t <;> simp [lengthen]
  | cons p ps => simp [lengthen]

theorem flatMap_whole_lengthen (s : List Char) (ps : List Piece) :
    (lengthen s ps).flatMap Piece.whole = s ++ ps.flatMap Piece.whole := by
  cases ps with
  | nil =>
    cases s with
    | nil => rfl
    | cons c s => simp [lengthen, Piece.whole]
  | cons p ps => simp [lengthen, Piece.whole]

theorem flatMap_whole_pieces (s : List Char) : (pieces s).flatMap Piece.whole = s := by
  fun_induction pieces s with
  | case1 => rfl
  | case2 rest ih => rw [List.flatMap_cons, ih]; rfl
  | case3 c rest hnot hbreak ih => rw [List.flatMap_cons, ih]; rfl
  | case4 c rest hnot hbreak ih => rw [flatMap_whole_lengthen, ih]; rfl

/-- The accumulators hold the reversed start of the current line and the lines before it. -/
theorem brokenLines_eq (line : List Char) (done : List (List Char)) (s : List Char) :
    brokenLines line done s =
      done.reverse ++ (lengthen line.reverse (pieces s)).map Piece.whole := by
  fun_induction brokenLines line done s with
  | case1 line done hempty =>
    simp [List.isEmpty_iff.mp hempty, pieces]
  | case2 line done hempty =>
    have hne : line ≠ [] := fun h => hempty (List.isEmpty_iff.mpr h)
    simp [pieces, lengthen, Piece.whole, hne]
  | case3 line done rest ih =>
    rw [ih]
    simp [pieces, Piece.whole]
  | case4 line done c rest hnot hbreak ih =>
    rw [ih]
    simp [pieces, Piece.whole, hbreak]
  | case5 line done c rest hnot hbreak ih =>
    rw [ih]
    simp [pieces, hbreak]

theorem dropFinalEmpty_splitBreaks (piece : List Char) (done : List (List Char)) (s : List Char) :
    dropFinalEmpty (splitBreaks piece done s) =
      done.reverse ++ (lengthen piece.reverse (pieces s)).map Piece.line := by
  fun_induction splitBreaks piece done s with
  | case1 piece done =>
    cases piece with
    | nil => simp [dropFinalEmpty, pieces]
    | cons c piece => simp [dropFinalEmpty, pieces, lengthen]
  | case2 piece done rest ih =>
    rw [ih]
    simp [pieces]
  | case3 piece done c rest hnot hbreak ih =>
    rw [ih]
    simp [pieces, hbreak]
  | case4 piece done c rest hnot hbreak ih =>
    rw [ih]
    simp [pieces, hbreak]

theorem brokenLines_eq_map (s : List Char) : brokenLines [] [] s = (pieces s).map Piece.whole := by
  rw [brokenLines_eq]
  simp

theorem lines_eq_map (s : List Char) : lines s = (pieces s).map Piece.line := by
  rw [lines, dropFinalEmpty_splitBreaks]
  simp

/-! ### Positions -/

/-- How many characters stand before a line, counted from zero; past the last line, all of them. -/
def lineStart : Nat → List Char → Nat
  | 0, _ => 0
  | _ + 1, [] => 0
  | k + 1, '\r' :: '\n' :: rest => lineStart k rest + 2
  | k + 1, c :: rest =>
    if c = '\r' ∨ c = '\n' then lineStart k rest + 1 else lineStart (k + 1) rest + 1

/-- The characters from a position up to another one; lines and columns count from zero. -/
def stretch (s : List Char) (line col endLine endCol : Nat) : List Char :=
  let start := lineStart line s + col
  (s.drop start).take (lineStart endLine s + endCol - start)

theorem flatMap_whole_take_lengthen (c : Char) (k : Nat) (ps : List Piece) :
    ((lengthen [c] ps).take (k + 1)).flatMap Piece.whole =
      c :: (ps.take (k + 1)).flatMap Piece.whole := by
  cases ps with
  | nil => simp [lengthen, Piece.whole]
  | cons p ps => simp [lengthen, Piece.whole]

theorem lineStart_eq (k : Nat) (s : List Char) :
    lineStart k s = (((pieces s).take k).flatMap Piece.whole).length := by
  fun_induction lineStart k s with
  | case1 s => simp
  | case2 k => simp [pieces]
  | case3 k rest ih => simp [ih, pieces, Piece.whole]
  | case4 k c rest hnot hbreak ih => simp [ih, pieces, Piece.whole, hbreak]
  | case5 k c rest hnot hbreak ih =>
    rw [ih, pieces.eq_3 c rest hnot, if_neg hbreak, flatMap_whole_take_lengthen, List.length_cons]

theorem drop_lineStart (k : Nat) (s : List Char) :
    s.drop (lineStart k s) = ((pieces s).drop k).flatMap Piece.whole := by
  have hsplit : ((pieces s).take k).flatMap Piece.whole ++
      ((pieces s).drop k).flatMap Piece.whole = s := by
    rw [← List.flatMap_append, List.take_append_drop, flatMap_whole_pieces]
  calc s.drop (lineStart k s)
    _ = (((pieces s).take k).flatMap Piece.whole ++
          ((pieces s).drop k).flatMap Piece.whole).drop (lineStart k s) := by rw [hsplit]
    _ = ((pieces s).drop k).flatMap Piece.whole := by rw [lineStart_eq, List.drop_left]

theorem lineStart_of_le {i j : Nat} (h : i ≤ j) (s : List Char) :
    lineStart j s =
      lineStart i s + ((((pieces s).take j).drop i).flatMap Piece.whole).length := by
  have htake : (pieces s).take i = ((pieces s).take j).take i := by
    rw [List.take_take, Nat.min_eq_left h]
  rw [lineStart_eq, lineStart_eq, htake, ← List.length_append, ← List.flatMap_append,
    List.take_append_drop]

private theorem drop_eq_cons {ps : List Piece} {i : Nat} {p : Piece} (h : ps[i]? = some p) :
    ps.drop i = p :: ps.drop (i + 1) := by
  obtain ⟨hlt, rfl⟩ := List.getElem?_eq_some_iff.mp h
  exact List.drop_eq_getElem_cons hlt

theorem stretch_eq (s : List Char) (i k j m : Nat) :
    stretch s i k j m =
      ((s.drop (lineStart i s)).take (lineStart j s + m - lineStart i s)).drop k := by
  unfold stretch
  dsimp only
  rw [List.drop_take, List.drop_drop, Nat.sub_sub]

theorem stretch_same_line {s : List Char} {i : Nat} {p : Piece} (hp : (pieces s)[i]? = some p)
    {m : Nat} (hm : m ≤ p.line.length) (k : Nat) :
    stretch s i k i m = (p.line.take m).drop k := by
  rw [stretch_eq, Nat.add_sub_cancel_left, drop_lineStart, drop_eq_cons hp, List.flatMap_cons,
    Piece.whole, List.append_assoc, List.take_append_of_le_length hm]

/-- Over several lines, a stretch is the rest of the first line, the lines between with their
breaks, and the start of the last line. -/
theorem stretch_lines {s : List Char} {i j : Nat} (hij : i < j) {p q : Piece}
    (hp : (pieces s)[i]? = some p) (hq : (pieces s)[j]? = some q)
    {k m : Nat} (hk : k ≤ p.line.length) (hm : m ≤ q.line.length) :
    stretch s i k j m =
      p.whole.drop k ++ (((pieces s).take j).drop (i + 1)).flatMap Piece.whole ++ q.line.take m := by
  have hfirst : ((pieces s).take j).drop i = p :: ((pieces s).take j).drop (i + 1) := by
    apply drop_eq_cons
    rw [List.getElem?_take_of_lt hij, hp]
  have hrest : (pieces s).drop i = ((pieces s).take j).drop i ++ q :: (pieces s).drop (j + 1) := by
    obtain ⟨hlt, -⟩ := List.getElem?_eq_some_iff.mp hq
    have hlen : i ≤ ((pieces s).take j).length := by
      rw [List.length_take]
      omega
    rw [← drop_eq_cons hq, ← List.drop_append_of_le_length hlen, List.take_append_drop]
  have hwhole : k ≤ p.whole.length := by
    rw [Piece.whole, List.length_append]
    omega
  rw [stretch_eq, lineStart_of_le (Nat.le_of_lt hij), Nat.add_assoc, Nat.add_sub_cancel_left,
    drop_lineStart, hrest, List.flatMap_append, List.take_length_add_append, hfirst,
    List.flatMap_cons, List.flatMap_cons, Piece.whole.eq_1 q, List.append_assoc q.line,
    List.take_append_of_le_length hm, List.append_assoc, List.drop_append_of_le_length hwhole,
    List.append_assoc]

example : stretch ['a', 'é', '\r', '\n', 'x', '😀', '\r', 'y'] 0 1 2 1 =
    ['é', '\r', '\n', 'x', '😀', '\r', 'y'] := by decide

end SourceUnit.Text
