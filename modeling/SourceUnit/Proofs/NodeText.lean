import SourceUnit.Proofs.BufferMemory
import SourceUnit.Proofs.Columns
import SourceUnit.Proofs.Lines
import SourceUnit.Proofs.SpanMemory
import SourceUnit.SyntaxTree.Segment

/-! The text of a node is what its span delimits: cutting encoded lines at byte offsets and counting
characters within lines lead to the same part of the source. -/
namespace SourceUnit

open Text (Piece pieces stretch)

/-! ### Cutting lines at byte offsets -/

namespace Segment

theorem bound_of_le {size i : Nat} (h : i ≤ size) (default : Nat) :
    bound size default (some (i : Int)) = i := by
  simp only [bound]
  rw [if_pos (Int.natCast_nonneg i), Int.toNat_natCast, Nat.min_eq_left h]

theorem slice_of_le {α : Type} {xs : List α} {i j : Nat} (hi : i ≤ xs.length) (hj : j ≤ xs.length) :
    slice xs (some (i : Int)) (some (j : Int)) = (xs.take j).drop i := by
  unfold slice
  rw [bound_of_le hi, bound_of_le hj, List.drop_take]

theorem slice_from {α : Type} {xs : List α} {i : Nat} (hi : i ≤ xs.length) :
    slice xs (some (i : Int)) none = xs.drop i := by
  unfold slice
  rw [bound_of_le hi]
  exact List.take_of_length_le (Nat.le_of_eq List.length_drop)

theorem slice_upTo {α : Type} {xs : List α} {j : Nat} (hj : j ≤ xs.length) :
    slice xs none (some (j : Int)) = xs.take j := by
  unfold slice
  rw [bound_of_le hj]
  rfl

theorem cut_of_slice {line part : List Char} {start stop : Option Int}
    (h : slice (Utf8.encode line) start stop = Utf8.encode part) : cut line start stop = .ok part := by
  unfold cut
  rw [h, Utf8.decode_encode]

theorem cut_between (line : List Char) {k m : Nat} (h : k ≤ m) :
    cut line (some (Utf8.byteLength (line.take k) : Int))
      (some (Utf8.byteLength (line.take m) : Int)) = .ok ((line.take m).drop k) := by
  apply cut_of_slice
  have hk : line.take k = (line.take m).take k := by rw [List.take_take, Nat.min_eq_left h]
  rw [slice_of_le (Utf8.byteLength_take_le line k) (Utf8.byteLength_take_le line m),
    Utf8.take_encode, hk, Utf8.drop_encode]

theorem cut_from (line : List Char) (k : Nat) :
    cut line (some (Utf8.byteLength (line.take k) : Int)) none = .ok (line.drop k) := by
  apply cut_of_slice
  rw [slice_from (Utf8.byteLength_take_le line k), Utf8.drop_encode]

theorem cut_upTo (line : List Char) (m : Nat) :
    cut line none (some (Utf8.byteLength (line.take m) : Int)) = .ok (line.take m) := by
  apply cut_of_slice
  rw [slice_upTo (Utf8.byteLength_take_le line m), Utf8.take_encode]

theorem lineAt_of_piece {s : List Char} {i : Nat} {p : Piece} (h : (pieces s)[i]? = some p) :
    lineAt (Text.brokenLines [] [] s) i = .ok p.whole := by
  obtain ⟨hlt, -⟩ := List.getElem?_eq_some_iff.mp h
  have hlines : (Text.brokenLines [] [] s)[i]? = some p.whole := by
    rw [Text.brokenLines_eq_map, List.getElem?_map, h, Option.map_some]
  have hindex : index? (Text.brokenLines [] [] s).length i = some i := by
    rw [Text.brokenLines_eq_map, List.length_map, index?, if_pos (Int.natCast_nonneg i),
      if_pos (Int.ofNat_lt.mpr hlt), Int.toNat_natCast]
  unfold lineAt
  rw [hindex, Option.bind_some, hlines]

/-- An offset within a line is the same offset within the line and its break. -/
theorem whole_take {p : Piece} {k : Nat} (h : k ≤ p.line.length) : p.whole.take k = p.line.take k :=
  List.take_append_of_le_length h

/-- Between two characters of a text, in this order, stands the stretch from one to the other. -/
theorem between_eq_stretch {s : List Char} {i j : Nat} {p q : Piece}
    (hp : (pieces s)[i]? = some p) (hq : (pieces s)[j]? = some q) {k m : Nat}
    (hk : k ≤ p.line.length) (hm : m ≤ q.line.length) (horder : i < j ∨ i = j ∧ k ≤ m) :
    between s i (some (Utf8.byteLength (p.line.take k) : Int)) j
      (Utf8.byteLength (q.line.take m) : Int) = .ok (stretch s i k j m) := by
  rw [← whole_take hk, ← whole_take hm]
  unfold between
  rcases horder with hij | ⟨rfl, hkm⟩
  · have hne : ¬(j : Int) = i := by omega
    obtain ⟨hlt, -⟩ := List.getElem?_eq_some_iff.mp hq
    have hmiddle : slice (Text.brokenLines [] [] s) (some ((i : Int) + 1)) (some (j : Int)) =
        (((pieces s).take j).drop (i + 1)).map Piece.whole := by
      rw [Text.brokenLines_eq_map, ← Int.natCast_succ, slice_of_le (by simp; omega) (by simp; omega),
        ← List.map_take, ← List.map_drop]
    rw [if_neg hne, lineAt_of_piece hp, lineAt_of_piece hq, hmiddle,
      Text.stretch_lines hij hp hq hk hm, ← whole_take hm, List.flatMap_def]
    simp only [bind, Except.bind, cut_from, cut_upTo]
    rfl
  · obtain rfl : p = q := Option.some.inj (hp.symm.trans hq)
    rw [if_pos rfl, lineAt_of_piece hp, Text.stretch_same_line hp hm, ← whole_take hm]
    exact cut_between p.whole hkm

end Segment

/-! ### Counting characters within lines -/

namespace Buffer

variable {b : Buffer} {s : List Char}

theorem Holds.line_eq (h : b.Holds s) (hfirst : b.firstLine = 1) (i : Nat) :
    b.line (i + 1) = .ok ((pieces s)[i]?.map Piece.line) := by
  rw [h.line_of_lines hfirst, Text.lines_eq_map, List.getElem?_map]

theorem Holds.charColumn_eq (h : b.Holds s) (hfirst : b.firstLine = 1) {i k : Nat} {p : Piece}
    (hp : (pieces s)[i]? = some p) (hk : k ≤ p.line.length) :
    b.charColumn (i + 1) (Utf8.byteLength (p.line.take k)) = .ok k := by
  unfold charColumn
  rw [h.line_eq hfirst, hp, Option.map_some]
  exact congrArg Except.ok (columnIn_byteLength hk)

end Buffer

/-! ### Text and span -/

/-- A line of the text, counted from one, and the byte offset of a character boundary in it. -/
def Text.Reaches (s : List Char) (line offset : Int) : Prop :=
  1 ≤ line ∧ ∃ text, (lines s)[(line - 1).toNat]? = some text ∧
    ∃ k ≤ text.length, offset = Utf8.byteLength (text.take k)

theorem Text.exists_piece_of_line {s text : List Char} {line : Int} (hone : 1 ≤ line)
    (htext : (lines s)[(line - 1).toNat]? = some text) :
    ∃ (i : Nat) (p : Piece), line = i + 1 ∧ (pieces s)[i]? = some p ∧ p.line = text := by
  rw [lines_eq_map, List.getElem?_map, Option.map_eq_some_iff] at htext
  obtain ⟨p, hp, hline⟩ := htext
  exact ⟨(line - 1).toNat, p, by omega, hp, hline⟩

theorem Text.Reaches.exists_piece {s : List Char} {line offset : Int} (h : Reaches s line offset) :
    ∃ (i k : Nat) (p : Piece), line = i + 1 ∧ (pieces s)[i]? = some p ∧ k ≤ p.line.length ∧
      offset = Utf8.byteLength (p.line.take k) := by
  obtain ⟨hone, text, htext, k, hk, hoffset⟩ := h
  obtain ⟨i, p, hline, hp, rfl⟩ := exists_piece_of_line hone htext
  exact ⟨i, k, p, hline, hp, hk, hoffset⟩

namespace SyntaxTree

/-- The tree after the spans of some nodes have been asked for. -/
def asked (t : SyntaxTree) (ns : List Node) : SyntaxTree :=
  ns.foldl (fun t n => (t.spanOf n).2) t

theorem asked_buffer (t : SyntaxTree) (ns : List Node) : (t.asked ns).buffer = t.buffer := by
  induction ns generalizing t with
  | nil => rfl
  | cons m ns ih => exact (ih (t.spanOf m).2).trans (spanOf_snd_buffer t m)

theorem asked_span? (t : SyntaxTree) {ns : List Node} {n : Node}
    (h : ∀ m ∈ ns, n.id = m.id → n = m) : (t.asked ns).span? n = t.span? n := by
  induction ns generalizing t with
  | nil => rfl
  | cons m ns ih =>
    have hrest := ih (t.spanOf m).2 fun m' hm' => h m' (List.mem_cons_of_mem m hm')
    exact hrest.trans (spanOf_snd_span? t (h m List.mem_cons_self))

variable {b : Buffer} {s : List Char} {n : Node} {i j k m : Nat} {p q : Piece}

theorem readSpan_eq (hb : b.Holds s) (hfirst : b.firstLine = 1)
    (hposition : n.position = ⟨.value (i + 1), .value (Utf8.byteLength (p.line.take k)),
      .value (j + 1), .value (Utf8.byteLength (q.line.take m))⟩)
    (hp : (pieces s)[i]? = some p) (hk : k ≤ p.line.length)
    (hq : (pieces s)[j]? = some q) (hm : m ≤ q.line.length) :
    readSpan b n = .ok (some ⟨i + 1, k, j + 1, m⟩) := by
  have hne : ¬(j : Int) + 1 = 0 := by omega
  simp only [readSpan, Node.start?, hposition, Attr.toOption, Option.getD_some, if_neg hne,
    hb.charColumn_eq hfirst hp hk, hb.charColumn_eq hfirst hq hm]
  rfl

theorem ofPosition_eq_stretch {position : Position}
    (hposition : position = ⟨.value (i + 1), .value (Utf8.byteLength (p.line.take k)),
      .value (j + 1), .value (Utf8.byteLength (q.line.take m))⟩)
    (hp : (pieces s)[i]? = some p) (hk : k ≤ p.line.length)
    (hq : (pieces s)[j]? = some q) (hm : m ≤ q.line.length) (horder : i < j ∨ i = j ∧ k ≤ m) :
    Segment.ofPosition s position = .ok (some (stretch s i k j m)) := by
  simp only [Segment.ofPosition, hposition, Int.add_sub_cancel,
    Segment.between_eq_stretch hp hq hk hm horder]
  rfl

/-- Byte offsets stand in the order of the characters they belong to. -/
theorem posLt_byteLength (hp : (pieces s)[i]? = some p) (hk : k ≤ p.line.length)
    (hq : (pieces s)[j]? = some q) (hm : m ≤ q.line.length) :
    posLt (i + 1) (Utf8.byteLength (p.line.take k)) (j + 1) (Utf8.byteLength (q.line.take m)) =
      posLt (i + 1) k (j + 1) m := by
  by_cases hij : i = j
  · subst hij
    obtain rfl : p = q := Option.some.inj (hp.symm.trans hq)
    simp [posLt, Utf8.byteLength_take_lt_iff hk hm]
  · have hline : ((i : Int) + 1 == j + 1) = false := beq_eq_false_iff_ne.mpr (by omega)
    simp only [posLt, hline, Bool.false_and]

theorem order_of_posLt (hp : (pieces s)[i]? = some p) (hk : k ≤ p.line.length)
    (hq : (pieces s)[j]? = some q) (hm : m ≤ q.line.length)
    (horder : posLt (j + 1) (Utf8.byteLength (q.line.take m)) (i + 1)
      (Utf8.byteLength (p.line.take k)) = false) :
    i < j ∨ i = j ∧ k ≤ m := by
  rw [posLt_byteLength hq hm hp hk] at horder
  simp only [posLt, Bool.or_eq_false_iff, Bool.and_eq_false_iff, decide_eq_false_iff_not,
    beq_eq_false_iff_ne] at horder
  omega

/-- The text of a node whose position reaches characters of the source, in order, is the stretch of
the source that its span delimits. -/
theorem textOf_eq_stretch_of_span (hb : b.Holds s) (hfirst : b.firstLine = 1) (root : Node)
    {before : List Node} (hbefore : ∀ m ∈ before, n.id = m.id → n = m)
    {line col endLine endCol : Int}
    (hposition : n.position = ⟨.value line, .value col, .value endLine, .value endCol⟩)
    (hstart : Text.Reaches s line col) (hend : Text.Reaches s endLine endCol)
    (horder : posLt endLine endCol line col = false) :
    let t := (ofRoot b hb.isAssigned root).asked before
    ∃ i k j m : Nat, (t.spanOf n).1 = some ⟨i + 1, k, j + 1, m⟩ ∧
      t.textOf n = .ok (some (stretch s i k j m)) := by
  intro t
  obtain ⟨i, k, p, rfl, hp, hk, rfl⟩ := hstart.exists_piece
  obtain ⟨j, m, q, rfl, hq, hm, rfl⟩ := hend.exists_piece
  have hheld : b.remember.Holds s := hb.remember
  have hone : b.remember.firstLine = 1 := b.remember_firstLine.trans hfirst
  have hbuffer : t.buffer = b.remember := asked_buffer (ofRoot b hb.isAssigned root) before
  refine ⟨i, k, j, m, ?_, ?_⟩
  · calc (t.spanOf n).1
      _ = (ofRoot b hb.isAssigned root).span? n := asked_span? (ofRoot b hb.isAssigned root) hbefore
      _ = (readSpan b.remember n).toOption.join := ofRoot_span? b hb.isAssigned root n
      _ = some ⟨i + 1, k, j + 1, m⟩ := by rw [readSpan_eq hheld hone hposition hp hk hq hm]; rfl
  · unfold textOf
    rw [hbuffer, hheld.source_eq]
    exact ofPosition_eq_stretch hposition hp hk hq hm (order_of_posLt hp hk hq hm horder)

/-- Three lines with three kinds of break, with characters of one, two and four bytes. -/
def mixedText : List Char := ['a', 'é', '\r', '\n', 'x', '😀', '\r', 'y', '\n']

/-- From the second character of the first line to the end of the second line. -/
def mixedNode : Node := .mk 1 "Expr" ⟨.value 1, .value 1, .value 2, .value 5⟩ []

def mixedBuffer : Buffer where
  text := some mixedText

theorem textOf_eq_stretch_of_span_of_mixedNode :
    mixedBuffer.Holds mixedText ∧ Text.Reaches mixedText 1 1 ∧ Text.Reaches mixedText 2 5 ∧
      let t := (ofRoot mixedBuffer rfl (.mk 0 "Module" {} [mixedNode])).asked [mixedNode]
      ∃ i k j m : Nat, (t.spanOf mixedNode).1 = some ⟨i + 1, k, j + 1, m⟩ ∧
        t.textOf mixedNode = .ok (some (stretch mixedText i k j m)) := by
  have hb : mixedBuffer.Holds mixedText := ⟨rfl, fun ls hls => nomatch hls⟩
  have hstart : Text.Reaches mixedText 1 1 := ⟨by decide, ['a', 'é'], by decide, 1, by decide, by decide⟩
  have hend : Text.Reaches mixedText 2 5 := ⟨by decide, ['x', '😀'], by decide, 2, by decide, by decide⟩
  refine ⟨hb, hstart, hend, textOf_eq_stretch_of_span hb rfl _ ?_ rfl hstart hend (by decide)⟩
  intro m hm _
  exact (List.mem_singleton.mp hm).symm

end SyntaxTree

end SourceUnit
