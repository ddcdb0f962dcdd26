import Mathlib.Data.Prod.Lex
import SourceUnit.Proofs.NodeText

/-! A span in characters contains what the position of its node contains in bytes. Byte offsets and
character columns order the characters of a text alike, so reading spans off the text moves nothing
into a node or out of it. -/
namespace SourceUnit

open Text (Piece pieces)

theorem posLt_iff {l c l' c' : Int} : posLt l c l' c' = true ↔ toLex (l, c) < toLex (l', c') := by
  simp [posLt, Prod.Lex.toLex_lt_toLex]

theorem Span.contains_iff (s : Span) (line col : Int) :
    s.contains line col = true ↔
      toLex (s.startLine, s.startCol) ≤ toLex (line, col) ∧
        toLex (line, col) < toLex (s.endLine, s.endCol) := by
  rw [contains, Bool.and_eq_true, Bool.not_eq_true', ← Bool.not_eq_true, posLt_iff, posLt_iff,
    not_lt]

namespace SyntaxTree

variable {b : Buffer} {s : List Char} {n : Node}

/-- The same containment in characters and in bytes, for a character of the text and a stretch
between two characters. -/
theorem contains_byteLength {i j l k m c : Nat} {p q r : Piece}
    (hp : (pieces s)[i]? = some p) (hk : k ≤ p.line.length)
    (hq : (pieces s)[j]? = some q) (hm : m ≤ q.line.length)
    (hr : (pieces s)[l]? = some r) (hc : c ≤ r.line.length) :
    Span.contains ⟨i + 1, Utf8.byteLength (p.line.take k), j + 1, Utf8.byteLength (q.line.take m)⟩
        (l + 1) (Utf8.byteLength (r.line.take c)) =
      Span.contains ⟨i + 1, k, j + 1, m⟩ (l + 1) c := by
  simp only [Span.contains, posLt_byteLength hr hc hp hk, posLt_byteLength hr hc hq hm]

/-- For a node whose position reaches characters of the text, its span contains a place in a line
exactly if the byte offset of the place lies between start and end of the position. -/
theorem spanOf_contains_iff_bytes (hb : b.Holds s) (hfirst : b.firstLine = 1) (root : Node)
    {before : List Node} (hbefore : ∀ m ∈ before, n.id = m.id → n = m)
    {line col endLine endCol : Int}
    (hposition : n.position = ⟨.value line, .value col, .value endLine, .value endCol⟩)
    (hstart : Text.Reaches s line col) (hend : Text.Reaches s endLine endCol)
    {l : Int} (hl : 1 ≤ l) {text : List Char} (htext : (Text.lines s)[(l - 1).toNat]? = some text)
    {c : Nat} (hc : c ≤ text.length) :
    let byte : Int := Utf8.byteLength (text.take c)
    ∃ span, (((ofRoot b hb.isAssigned root).asked before).spanOf n).1 = some span ∧
      (span.contains l c = true ↔
        toLex (line, col) ≤ toLex (l, byte) ∧ toLex (l, byte) < toLex (endLine, endCol)) := by
  intro byte
  obtain ⟨i, k, p, rfl, hp, hk, rfl⟩ := hstart.exists_piece
  obtain ⟨j, m, q, rfl, hq, hm, rfl⟩ := hend.exists_piece
  obtain ⟨l, r, rfl, hr, rfl⟩ := Text.exists_piece_of_line hl htext
  have hone : b.remember.firstLine = 1 := b.remember_firstLine.trans hfirst
  refine ⟨⟨i + 1, k, j + 1, m⟩, ?_, ?_⟩
  · calc (((ofRoot b hb.isAssigned root).asked before).spanOf n).1
      _ = (ofRoot b hb.isAssigned root).span? n := asked_span? (ofRoot b hb.isAssigned root) hbefore
      _ = (readSpan b.remember n).toOption.join := ofRoot_span? b hb.isAssigned root n
      _ = some ⟨i + 1, k, j + 1, m⟩ := by
        rw [readSpan_eq hb.remember hone hposition hp hk hq hm]
        rfl
  · rw [← contains_byteLength hp hk hq hm hr hc, Span.contains_iff]

/-- Just before the character of four bytes that ends `mixedNode`. -/
theorem spanOf_contains_iff_bytes_of_mixedNode :
    mixedBuffer.Holds mixedText ∧ Text.Reaches mixedText 1 1 ∧ Text.Reaches mixedText 2 5 ∧
      (Text.lines mixedText)[1]? = some ['x', '😀'] ∧
      ∃ span, (((ofRoot mixedBuffer rfl mixedNode).asked [mixedNode]).spanOf mixedNode).1 = some span ∧
        span.contains 2 1 = true ∧ span.contains 2 2 = false := by
  have hb : mixedBuffer.Holds mixedText := ⟨rfl, fun ls hls => nomatch hls⟩
  have hstart : Text.Reaches mixedText 1 1 :=
    ⟨by decide, ['a', 'é'], by decide, 1, by decide, by decide⟩
  have hend : Text.Reaches mixedText 2 5 :=
    ⟨by decide, ['x', '😀'], by decide, 2, by decide, by decide⟩
  have htext : (Text.lines mixedText)[1]? = some ['x', '😀'] := by decide
  have hbefore : ∀ m ∈ [mixedNode], mixedNode.id = m.id → mixedNode = m := by
    intro m hm _
    exact (List.mem_singleton.mp hm).symm
  have hat (c : Nat) (hc : c ≤ 2) :=
    spanOf_contains_iff_bytes hb rfl mixedNode hbefore rfl hstart hend (l := 2) (by decide) htext hc
  obtain ⟨span, hspan, hinside⟩ := hat 1 (by decide)
  obtain ⟨span', hspan', houtside⟩ := hat 2 (by decide)
  obtain rfl : span = span' := Option.some.inj (hspan.symm.trans hspan')
  refine ⟨hb, hstart, hend, htext, span, hspan, hinside.mpr (by decide), ?_⟩
  rw [← Bool.not_eq_true]
  intro hcontains
  exact absurd (houtside.mp hcontains).2 (by decide)

end SyntaxTree

end SourceUnit
