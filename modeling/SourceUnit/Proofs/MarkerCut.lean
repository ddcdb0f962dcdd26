import Mathlib.Order.Bounds.Basic
import SourceUnit.Proofs.KeptLines
import SourceUnit.Proofs.Spelling

/-! Where the lines of a unit end: at the first end marker that does not stand above the last token, or
with the text. -/
namespace SourceUnit.ParsedUnit

/-- The number of lines before the first marker at or past an index, or of all lines. -/
def CutAt (marker : List Char) (last : Int) (ls : List (List Char)) (k : Nat) : Prop :=
  IsLeast {j : Nat | last ≤ j ∧ ls[j]? = some marker} k ∨
    (∀ j : Nat, last ≤ j → ls[j]? ≠ some marker) ∧ k = ls.length

theorem keepFrom_starts (marker : List Char) (last : Int) (index : Nat) (ls : List (List Char)) :
    keepFrom marker last index ls <+: ls := by
  induction ls generalizing index with
  | nil => exact List.nil_prefix
  | cons l ls ih =>
    rw [keepFrom]
    split
    · exact List.nil_prefix
    · exact List.cons_prefix_cons.mpr ⟨rfl, ih (index + 1)⟩

/-- Where keeping lines stops early, a marker stands that counts. -/
theorem marker_of_keepFrom {marker : List Char} {last : Int} {index : Nat} {ls : List (List Char)}
    (h : (keepFrom marker last index ls).length < ls.length) :
    last ≤ (index + (keepFrom marker last index ls).length : Nat) ∧
      ls[(keepFrom marker last index ls).length]? = some marker := by
  induction ls generalizing index with
  | nil => cases h
  | cons l ls ih =>
    rw [keepFrom] at h ⊢
    split at h
    next hcut =>
      rw [if_pos hcut, List.length_nil, Nat.add_zero, List.getElem?_cons_zero, hcut.2]
      exact ⟨hcut.1, rfl⟩
    next hcut =>
      obtain ⟨hlast, hmarker⟩ := ih (Nat.lt_of_succ_lt_succ h)
      rw [if_neg hcut, List.length_cons, List.getElem?_cons_succ]
      exact ⟨by omega, hmarker⟩

theorem cutAt_keepFrom (marker : List Char) (last : Int) (ls : List (List Char)) :
    CutAt marker last ls (keepFrom marker last 0 ls).length := by
  have hbefore : ∀ j : Nat, j < (keepFrom marker last 0 ls).length → last ≤ j →
      ls[j]? ≠ some marker := by
    intro j hj hlast
    have hkept := (getElem?_keepFrom marker last 0 ls j _).mp (List.getElem?_eq_getElem hj)
    exact hkept.2 j (Nat.le_refl j) (by omega)
  by_cases hstops : (keepFrom marker last 0 ls).length < ls.length
  · obtain ⟨hlast, hmarker⟩ := marker_of_keepFrom hstops
    refine .inl ⟨⟨by omega, hmarker⟩, ?_⟩
    rintro j ⟨hj, hmarker'⟩
    by_contra hlt
    exact hbefore j (Nat.lt_of_not_le hlt) hj hmarker'
  · have hall : (keepFrom marker last 0 ls).length = ls.length :=
      Nat.le_antisymm (keepFrom_starts marker last 0 ls).length_le (Nat.le_of_not_lt hstops)
    refine .inr ⟨?_, hall⟩
    intro j hj hmarker
    obtain ⟨hlt, -⟩ := List.getElem?_eq_some_iff.mp hmarker
    exact hbefore j (hall ▸ hlt) hj hmarker

section Lines

variable {u : ParsedUnit} {ls : List (List Char)}

theorem exists_cut (hencoding : u.encodingError = none) (hlines : u.buffer.lines = .ok ls) :
    ∃ k, CutAt u.settings.endMarker.toList (lastTokenLine u.tokens) ls k ∧ k ≤ ls.length ∧
      u.lines = ls.take k := by
  have hstarts := keepFrom_starts u.settings.endMarker.toList (lastTokenLine u.tokens) 0 ls
  rw [lines_eq_keepFrom hencoding hlines]
  exact ⟨_, cutAt_keepFrom _ _ _, hstarts.length_le, List.prefix_iff_eq_take.mp hstarts⟩

/-- A marker that counts stands below every line that a token starts on. -/
theorem keeps_of_start (hencoding : u.encodingError = none) (hlines : u.buffer.lines = .ok ls)
    (hsorted : u.tokens.Pairwise fun a b => a.span.startLine ≤ b.span.startLine) {t : Token}
    (ht : t ∈ u.tokens) {i : Nat} (hstart : t.span.startLine = i + 1) (hi : i < ls.length) :
    u.Keeps ls i := by
  have hle := startLine_le_lastTokenLine hsorted t ht
  refine (keeps_iff hencoding hlines hi).mpr ?_
  intro j hj hlast
  omega

theorem marker_not_kept (hencoding : u.encodingError = none) (hlines : u.buffer.lines = .ok ls)
    {i : Nat} (hlast : lastTokenLine u.tokens ≤ i) :
    u.lines[i]? ≠ some u.settings.endMarker.toList := by
  intro hmarker
  obtain ⟨hthere, hnone⟩ := (getElem?_lines hencoding hlines i _).mp hmarker
  exact hnone i (Nat.le_refl i) hlast hthere

end Lines

/-- The lines of a unit with a text are those before the cut, whatever the end marker and the tokens.
If no token starts above the one before it, each line that a token starts on is kept. No marker is kept
at or past the line of the last token, and lines keep their numbers. -/
theorem build_lines_eq_take_cut (settings : Settings) (registry : Registry Maker) (engine : Engine)
    (wanted : Option Value) (path : Option String) (raw : RawSource) {u : ParsedUnit}
    (hu : (build settings registry engine wanted path raw).result = .ok u)
    (hencoding : u.encodingError = none) (marker : String) (tokens : List Token) :
    let v : ParsedUnit :=
      { u with settings := { u.settings with endMarker := marker }, tokens := tokens }
    ∃ ls k, v.buffer.lines = .ok ls ∧
      CutAt marker.toList (lastTokenLine tokens) ls k ∧ k ≤ ls.length ∧ v.lines = ls.take k ∧
      (tokens.Pairwise (fun a b => a.span.startLine ≤ b.span.startLine) →
        ∀ t ∈ tokens, ∀ i : Nat, t.span.startLine = i + 1 → i < ls.length → v.Keeps ls i) ∧
      (∀ i : Nat, lastTokenLine tokens ≤ i → v.lines[i]? ≠ some marker.toList) ∧
      ∀ (i : Nat) (l : List Char), v.lines[i]? = some l → v.buffer.line (i + 1) = .ok (some l) := by
  intro v
  obtain ⟨-, ⟨text, -, -, hholds, hfirst⟩ | ⟨e, -, herror⟩⟩ := keeps_of_build hu
  · have hlines : v.buffer.lines = .ok (Text.lines text) := hholds.lines_eq
    have hv : v.encodingError = none := hencoding
    obtain ⟨k, hcut, hk, htake⟩ := exists_cut hv hlines
    refine ⟨Text.lines text, k, hlines, hcut, hk, htake, ?_, ?_, ?_⟩
    · intro hsorted t ht i hstart hi
      exact keeps_of_start hv hlines hsorted ht hstart hi
    · intro i hlast
      exact marker_not_kept hv hlines hlast
    · intro i l hl
      have hline : v.buffer.line (i + 1) = .ok (Text.lines text)[i]? := hholds.line_of_lines hfirst i
      rw [hline, ((getElem?_lines hv hlines i l).mp hl).1]
  · cases hencoding.symm.trans herror

/-- A script that finds a name on the first line, spelled as a marker, and one on the second. -/
def twoNames : Replay where
  tokens := [⟨TokenKind.name, "__END__", ⟨1, 0, 1, 7⟩⟩, ⟨TokenKind.name, "x", ⟨2, 0, 2, 1⟩⟩]

/-- The first marker is code, the one below the last token ends the lines. -/
theorem build_lines_eq_take_cut_of_twoNames :
    let construction := build {} ⟨[(⟨3, 8⟩, .replay 0 twoNames)]⟩
      (.scripted ⟨[], none⟩ ⟨[], .ok none⟩) (some (.release ⟨3, 8⟩)) none
      (.text ("__END__\nx\r__END__\ny".toList.map CodePoint.ofChar))
    ∃ u, construction.result = .ok u ∧ u.encodingError = none ∧
      u.tokens.Pairwise (fun a b => a.span.startLine ≤ b.span.startLine) ∧
      ∃ ls k, u.buffer.lines = .ok ls ∧ CutAt "__END__".toList 2 ls k ∧ u.lines = ls.take k ∧
        u.Keeps ls 0 ∧ u.lines = ["__END__".toList, ['x']] := by
  intro construction
  let tokens : List Token := [⟨"NAME", "__END__", ⟨1, 0, 1, 7⟩⟩, ⟨"NAME", "x", ⟨2, 0, 2, 1⟩⟩]
  have hsorted : tokens.Pairwise fun a b => a.span.startLine ≤ b.span.startLine := by decide
  have hmakes : construction.Makes (.release ⟨3, 8⟩) _ := makes_of_parse rfl rfl rfl rfl
  have hu := hmakes.result_eq ⟨3, 8⟩ rfl (by decide +kernel)
  obtain ⟨ls, k, hlines, hcut, -, htake, hkeeps, -, -⟩ :=
    build_lines_eq_take_cut {} _ _ _ _ _ hu rfl "__END__" tokens
  obtain rfl : ["__END__".toList, ['x'], "__END__".toList, ['y']] = ls :=
    Except.ok.inj (Eq.trans rfl hlines)
  exact ⟨_, hu, rfl, hsorted, _, k, hlines, hcut, htake,
    hkeeps hsorted _ List.mem_cons_self 0 rfl (by decide), rfl⟩

end SourceUnit.ParsedUnit
