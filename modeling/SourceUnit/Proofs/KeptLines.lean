import SourceUnit.Lexer
import SourceUnit.ParsedUnit

/-! Which lines of a text a unit keeps. An end marker is looked for past the line that the last token
starts on, so a token that goes on from there can be cut. -/
namespace SourceUnit.ParsedUnit

/-- A line is kept as it is, and at its index, unless a marker that counts stands at or before it. -/
theorem getElem?_keepFrom (marker : List Char) (last : Int) (index : Nat) (ls : List (List Char))
    (k : Nat) (l : List Char) :
    (keepFrom marker last index ls)[k]? = some l ↔
      ls[k]? = some l ∧ ∀ j ≤ k, last ≤ (index + j : Nat) → ls[j]? ≠ some marker := by
  induction ls generalizing index k with
  | nil => simp [keepFrom]
  | cons head ls ih =>
    rw [keepFrom]
    split
    next hcut =>
      constructor
      · intro h
        cases h
      · rintro ⟨-, hnone⟩
        have hhead := hnone 0 (Nat.zero_le k) hcut.1
        rw [List.getElem?_cons_zero, hcut.2] at hhead
        exact absurd rfl hhead
    next hcut =>
      cases k with
      | zero =>
        rw [List.getElem?_cons_zero]
        refine ⟨fun h => ⟨h, ?_⟩, fun h => h.1⟩
        intro j hj hlast hmarker
        obtain rfl := Nat.le_zero.mp hj
        exact hcut ⟨hlast, Option.some.inj hmarker⟩
      | succ k =>
        rw [List.getElem?_cons_succ, List.getElem?_cons_succ, ih]
        refine and_congr_right fun _ => ⟨?_, ?_⟩
        · intro h j hj hlast
          cases j with
          | zero => exact fun hmarker => hcut ⟨hlast, Option.some.inj hmarker⟩
          | succ j => exact h j (by omega) (by omega)
        · intro h j hj hlast
          exact h (j + 1) (by omega) (by omega)

/-- Tokens in the order of their starts, none of them backward, all within the lines of a text. -/
structure InOrder (count : Nat) (tokens : List Token) : Prop where
  sorted : tokens.Pairwise fun a b =>
    posLt b.span.startLine b.span.startCol a.span.startLine a.span.startCol = false
  forward : ∀ t ∈ tokens,
    posLt t.span.endLine t.span.endCol t.span.startLine t.span.startCol = false
  inside : ∀ t ∈ tokens, 1 ≤ t.span.startLine ∧ t.span.endLine ≤ count

theorem le_of_posLt {l c l' c' : Int} (h : posLt l' c' l c = false) : l ≤ l' := by
  simp [posLt] at h
  omega

/-- Where no token starts above the one before it, none starts below the last. -/
theorem startLine_le_lastTokenLine {tokens : List Token}
    (h : tokens.Pairwise fun a b => a.span.startLine ≤ b.span.startLine) :
    ∀ t ∈ tokens, t.span.startLine ≤ lastTokenLine tokens := by
  intro t ht
  unfold lastTokenLine
  obtain hnil | ⟨before, last, hsplit⟩ := List.eq_nil_or_concat tokens
  · exact absurd (hnil ▸ ht) List.not_mem_nil
  · rw [List.concat_eq_append] at hsplit
    subst hsplit
    rw [List.getLast?_append, List.getLast?_singleton]
    rcases List.mem_append.mp ht with hbefore | hend
    · exact (List.pairwise_append.mp h).2.2 t hbefore last List.mem_cons_self
    · rw [List.mem_singleton.mp hend]
      exact Int.le_refl _

namespace InOrder

variable {count : Nat} {tokens : List Token} (h : InOrder count tokens)
include h

theorem startLine_le : ∀ t ∈ tokens, t.span.startLine ≤ lastTokenLine tokens :=
  startLine_le_lastTokenLine (h.sorted.imp le_of_posLt)

theorem lastTokenLine_le : lastTokenLine tokens ≤ count := by
  unfold lastTokenLine
  split
  next t hlast =>
    have ht := List.mem_of_getLast? hlast
    exact Int.le_trans (le_of_posLt (h.forward t ht)) (h.inside t ht).2
  next => exact Int.natCast_nonneg count

end InOrder

section Lines

variable {u : ParsedUnit} {ls : List (List Char)}

theorem lines_eq_keepFrom (hencoding : u.encodingError = none) (hlines : u.buffer.lines = .ok ls) :
    u.lines = keepFrom u.settings.endMarker.toList (lastTokenLine u.tokens) 0 ls := by
  simp only [lines, hencoding, hlines]

theorem getElem?_lines (hencoding : u.encodingError = none) (hlines : u.buffer.lines = .ok ls)
    (i : Nat) (l : List Char) :
    u.lines[i]? = some l ↔ ls[i]? = some l ∧ ∀ j ≤ i, lastTokenLine u.tokens ≤ j →
      ls[j]? ≠ some u.settings.endMarker.toList := by
  rw [lines_eq_keepFrom hencoding hlines, getElem?_keepFrom]
  simp

/-- The line at an index is there, and it is kept. -/
def Keeps (u : ParsedUnit) (ls : List (List Char)) (i : Nat) : Prop :=
  ∃ l, ls[i]? = some l ∧ u.lines[i]? = some l

theorem keeps_iff (hencoding : u.encodingError = none) (hlines : u.buffer.lines = .ok ls) {i : Nat}
    (hi : i < ls.length) :
    u.Keeps ls i ↔ ∀ j ≤ i, lastTokenLine u.tokens ≤ j →
      ls[j]? ≠ some u.settings.endMarker.toList := by
  unfold Keeps
  constructor
  · rintro ⟨l, -, hl⟩
    exact ((getElem?_lines hencoding hlines i l).mp hl).2
  · intro hmarkers
    have hl : ls[i]? = some ls[i] := List.getElem?_eq_getElem hi
    exact ⟨ls[i], hl, (getElem?_lines hencoding hlines i _).mpr ⟨hl, hmarkers⟩⟩

end Lines

/-- Some token stands on the line at an index: at its start, at its end or in between. -/
def Occupied (tokens : List Token) (i : Nat) : Prop :=
  ∃ t ∈ tokens, t.span.startLine ≤ i + 1 ∧ i + 1 ≤ t.span.endLine

instance (tokens : List Token) (i : Nat) : Decidable (Occupied tokens i) :=
  inferInstanceAs
    (Decidable (∃ t ∈ tokens, t.span.startLine ≤ (i : Int) + 1 ∧ (i : Int) + 1 ≤ t.span.endLine))

/-- Lines are kept up to the one that the last token starts on. The lines of all tokens are kept
exactly if no token goes on to a marker past that line. -/
theorem keeps_occupied_iff (u : ParsedUnit) {ls : List (List Char)}
    (hencoding : u.encodingError = none) (hlines : u.buffer.lines = .ok ls)
    (horder : InOrder ls.length u.tokens) :
    (∀ i : Nat, i < lastTokenLine u.tokens → u.Keeps ls i) ∧
    ((∀ i, Occupied u.tokens i → u.Keeps ls i) ↔
      ∀ j : Nat, lastTokenLine u.tokens ≤ j → ls[j]? = some u.settings.endMarker.toList →
        ∀ t ∈ u.tokens, t.span.endLine ≤ j) := by
  have hkeeps {i : Nat} (hi : i < ls.length) := keeps_iff hencoding hlines hi
  refine ⟨?_, ?_, ?_⟩
  · intro i hi
    have hcount := horder.lastTokenLine_le
    refine (hkeeps (by omega)).mpr ?_
    intro j hj hlast
    omega
  · intro hkept j hlast hmarker t ht
    apply Int.not_lt.mp
    intro hend
    have hstart := horder.startLine_le t ht
    obtain ⟨hj, -⟩ := List.getElem?_eq_some_iff.mp hmarker
    have hline := hkept j ⟨t, ht, by omega, by omega⟩
    exact (hkeeps hj).mp hline j (Nat.le_refl j) hlast hmarker
  · rintro hmarkers i ⟨t, ht, -, hend⟩
    have hcount := (horder.inside t ht).2
    refine (hkeeps (by omega)).mpr ?_
    intro j hj hlast hmarker
    have hpast := hmarkers j hlast hmarker t ht
    omega

/-- A unit of a text with an end marker inside a long string. -/
def quoting (text : List Char) (tokens : List Token) : ParsedUnit where
  settings := {}
  release := ⟨3, 12⟩
  raw := .text (text.map CodePoint.ofChar)
  path := none
  buffer := { text := some text }
  tokens := tokens

def quotation : List Char := "\"\"\"\n__END__\n\"\"\"".toList

/-- A line break is the last token, so that the marker in the string is part of the text and the one
below it is not. -/
def closedUnit : ParsedUnit :=
  quoting (quotation ++ "\n__END__\nx".toList)
    [⟨"STRING", String.ofList quotation, ⟨1, 0, 3, 3⟩⟩, ⟨"NEWLINE", "\n", ⟨3, 3, 3, 4⟩⟩]

theorem keeps_occupied_iff_of_closed :
    closedUnit.encodingError = none ∧ ∃ ls, closedUnit.buffer.lines = .ok ls ∧
      InOrder ls.length closedUnit.tokens ∧ Occupied closedUnit.tokens 1 ∧
      ∀ i, Occupied closedUnit.tokens i → closedUnit.Keeps ls i := by
  let ls := Text.lines (quotation ++ "\n__END__\nx".toList)
  have horder : InOrder ls.length closedUnit.tokens := by
    refine ⟨?_, ?_, ?_⟩
    all_goals decide +kernel
  have hends : ∀ t ∈ closedUnit.tokens, t.span.endLine ≤ lastTokenLine closedUnit.tokens := by
    decide +kernel
  have hkept := (keeps_occupied_iff closedUnit rfl rfl horder).2.mpr fun j hlast _ t ht =>
    Int.le_trans (hends t ht) hlast
  exact ⟨rfl, ls, rfl, horder, by decide +kernel, hkept⟩

/-- The string is the last token of an expression that is never closed. -/
def openUnit : ParsedUnit :=
  quoting ('(' :: quotation)
    [⟨"LPAR", "(", ⟨1, 0, 1, 1⟩⟩, ⟨"STRING", String.ofList quotation, ⟨1, 1, 3, 3⟩⟩]

/-- The marker cuts off the rest of the string. -/
theorem openUnit_loses_string :
    ((Lexer.lex ('(' :: quotation)).tokens.filter Backend.isShown).mapM RawToken.toToken =
        .ok openUnit.tokens ∧
      openUnit.encodingError = none ∧
      ∃ ls, openUnit.buffer.lines = .ok ls ∧ InOrder ls.length openUnit.tokens ∧
        Occupied openUnit.tokens 1 ∧ Occupied openUnit.tokens 2 ∧
        ¬openUnit.Keeps ls 1 ∧ ¬openUnit.Keeps ls 2 := by
  have hlex : (Lexer.lex ('(' :: quotation)).tokens.filter Backend.isShown =
      [⟨TokenKind.op, "(", ⟨1, 0, 1, 1⟩⟩,
        ⟨TokenKind.string, String.ofList quotation, ⟨1, 1, 3, 3⟩⟩] := by decide +kernel
  have hlines : openUnit.lines = ["(\"\"\"".toList] := by decide +kernel
  have hlost {ls : List (List Char)} {i : Nat} : ¬openUnit.Keeps ls (i + 1) := by
    rintro ⟨l, -, hl⟩
    rw [hlines] at hl
    cases hl
  refine ⟨?_, rfl, _, rfl, ⟨?_, ?_, ?_⟩, ?_, ?_, hlost, hlost⟩
  · rw [hlex]
    rfl
  all_goals decide +kernel

end SourceUnit.ParsedUnit
