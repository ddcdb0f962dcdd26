import Mathlib.Data.List.TakeWhile
import SourceUnit.Release.Parse

/-! The grammar of the texts that name a release. It is read off a text in one way only, and what is
said of the text is said of the two runs of digits in it. -/
namespace SourceUnit

namespace Text

theorem isDigit_eq_inRanges (n : Nat) : isDigit n = inRanges digitRanges n := by
  rw [Bool.eq_iff_iff]
  simp [isDigit, digitValue?, inRanges]

/-- Ranges that lie apart share no number. -/
theorem inRanges_of_apart {rs qs : List (Nat × Nat)}
    (hapart : ∀ r ∈ rs, ∀ q ∈ qs, r.2 < q.1 ∨ q.2 < r.1) {n : Nat} (h : inRanges rs n = true) :
    inRanges qs n = false := by
  simp only [inRanges, List.any_eq_true, List.any_eq_false, Bool.and_eq_true,
    decide_eq_true_eq] at h ⊢
  obtain ⟨r, hr, hlow, hhigh⟩ := h
  intro q hq hboth
  have := hapart r hr q hq
  omega

theorem isDigit_of_isBlank {n : Nat} (h : isBlank n = true) : isDigit n = false := by
  rw [isDigit_eq_inRanges]
  exact inRanges_of_apart (by decide +kernel) h

end Text

namespace Release

def point : CodePoint := 46

/-- White space, digits, a point, digits and white space. -/
structure Spelled (s major minor : List CodePoint) : Prop where
  split : ∃ before after, s = before ++ (major ++ point :: (minor ++ after)) ∧
    ∀ c ∈ before ++ after, Text.isBlank c.val = true
  digits : ∀ c ∈ major ++ minor, Text.isDigit c.val = true
  major_ne : major ≠ []
  minor_ne : minor ≠ []

/-- The parts of a text that names a release. -/
@[ext] structure Parts where
  before : List CodePoint
  major : List CodePoint
  minor : List CodePoint
  after : List CodePoint
  blanks : ∀ c ∈ before ++ after, Text.isBlank c.val = true
  digits : ∀ c ∈ major ++ minor, Text.isDigit c.val = true
  major_ne : major ≠ []
  minor_ne : minor ≠ []

def Parts.text (p : Parts) : List CodePoint :=
  p.before ++ (p.major ++ point :: (p.minor ++ p.after))

theorem Spelled.exists_parts {s major minor : List CodePoint} (h : Spelled s major minor) :
    ∃ p : Parts, p.text = s ∧ p.major = major ∧ p.minor = minor := by
  obtain ⟨⟨before, after, rfl, hblank⟩, hdigits, hmajor, hminor⟩ := h
  exact ⟨⟨before, major, minor, after, hblank, hdigits, hmajor, hminor⟩, rfl, rfl, rfl⟩

theorem isDigit_point : Text.isDigit point.val = false := by decide +kernel

theorem isBlank_of_isDigit {n : Nat} (h : Text.isDigit n = true) : Text.isBlank n = false := by
  cases hblank : Text.isBlank n with
  | false => rfl
  | true =>
    rw [Text.isDigit_of_isBlank hblank] at h
    cases h

/-- A run ends where the first element outside its class stands. -/
theorem run_exact {α : Type} {p : α → Bool} {run rest : List α} (hrun : ∀ a ∈ run, p a = true)
    (hrest : ∀ a ∈ rest.head?, p a = false) :
    (run ++ rest).takeWhile p = run ∧ (run ++ rest).dropWhile p = rest := by
  rw [List.takeWhile_append_of_pos hrun, List.dropWhile_append_of_pos hrun]
  cases rest with
  | nil => simp
  | cons a rest => simp [hrest a rfl]

section Reading

private abbrev digit (c : CodePoint) : Bool := Text.isDigit c.val

private abbrev blank (c : CodePoint) : Bool := Text.isBlank c.val

/-! A text has its parts in one way only: each of them is read off as the longest run of its class. -/

theorem Parts.text_runs (p : Parts) :
    p.text.takeWhile blank = p.before ∧
      p.text.dropWhile blank = p.major ++ point :: (p.minor ++ p.after) := by
  refine run_exact (fun c hc => p.blanks c (List.mem_append_left _ hc)) ?_
  obtain ⟨d, ds, hmajor⟩ := List.exists_cons_of_ne_nil p.major_ne
  have hd : Text.isDigit d.val = true := p.digits d (by simp [hmajor])
  rw [hmajor]
  rintro c ⟨⟩
  exact isBlank_of_isDigit hd

theorem Parts.major_runs (p : Parts) :
    (p.major ++ point :: (p.minor ++ p.after)).takeWhile digit = p.major ∧
      (p.major ++ point :: (p.minor ++ p.after)).dropWhile digit =
        point :: (p.minor ++ p.after) := by
  refine run_exact (fun c hc => p.digits c (List.mem_append_left _ hc)) ?_
  rintro c ⟨⟩
  exact isDigit_point

theorem Parts.minor_runs (p : Parts) :
    (p.minor ++ p.after).takeWhile digit = p.minor ∧
      (p.minor ++ p.after).dropWhile digit = p.after := by
  refine run_exact (fun c hc => p.digits c (List.mem_append_right _ hc)) fun c hc => ?_
  have hc : c ∈ p.after := List.mem_of_mem_head? hc
  exact Text.isDigit_of_isBlank (p.blanks c (List.mem_append_right _ hc))

theorem Parts.text_injective : Function.Injective Parts.text := by
  intro p q h
  have hbefore : p.before = q.before := by rw [← p.text_runs.1, h, q.text_runs.1]
  have hrest : p.major ++ point :: (p.minor ++ p.after) =
      q.major ++ point :: (q.minor ++ q.after) := by
    rw [← p.text_runs.2, h, q.text_runs.2]
  have hmajor : p.major = q.major := by rw [← p.major_runs.1, hrest, q.major_runs.1]
  have hend : p.minor ++ p.after = q.minor ++ q.after := by
    have hpoint := p.major_runs.2
    rw [hrest, q.major_runs.2] at hpoint
    exact (List.cons.inj hpoint).2.symm
  have hminor : p.minor = q.minor := by rw [← p.minor_runs.1, hend, q.minor_runs.1]
  have hafter : p.after = q.after := by rw [← p.minor_runs.2, hend, q.minor_runs.2]
  exact Parts.ext hbefore hmajor hminor hafter

theorem ofText_of_parts (p : Parts) :
    ofText p.text =
      if maxDigits < p.major.length ∨ maxDigits < p.minor.length then .tooLong
      else .release ⟨digitsValue p.major, digitsValue p.minor⟩ := by
  have hafter : p.after.all blank = true :=
    List.all_eq_true.mpr fun c hc => p.blanks c (List.mem_append_right _ hc)
  have hshape : point.val = 46 ∧ p.major ≠ [] ∧ p.minor ≠ [] ∧ p.after.all blank = true :=
    ⟨rfl, p.major_ne, p.minor_ne, hafter⟩
  simp only [ofText, p.text_runs, p.major_runs, p.minor_runs]
  rw [if_pos hshape]

theorem ofText_of_spelled {s major minor : List CodePoint} (h : Spelled s major minor) :
    ofText s =
      if maxDigits < major.length ∨ maxDigits < minor.length then .tooLong
      else .release ⟨digitsValue major, digitsValue minor⟩ := by
  obtain ⟨p, rfl, rfl, rfl⟩ := h.exists_parts
  exact ofText_of_parts p

theorem spelled_of_ofText {s : List CodePoint} (h : ofText s ≠ .none) :
    ∃ major minor, Spelled s major minor := by
  cases hrest : (s.dropWhile blank).dropWhile digit with
  | nil => simp [ofText, hrest] at h
  | cons p rest =>
    simp only [ofText, hrest] at h
    by_cases hshape : p.val = 46 ∧ (s.dropWhile blank).takeWhile digit ≠ [] ∧
      rest.takeWhile digit ≠ [] ∧ (rest.dropWhile digit).all blank = true
    · obtain ⟨hpoint, hmajor, hminor, hafter⟩ := hshape
      refine ⟨(s.dropWhile blank).takeWhile digit, rest.takeWhile digit,
        ⟨s.takeWhile blank, rest.dropWhile digit, ?_, ?_⟩, ?_, hmajor, hminor⟩
      · obtain rfl : p = point := Fin.ext hpoint
        rw [List.takeWhile_append_dropWhile, ← hrest, List.takeWhile_append_dropWhile,
          List.takeWhile_append_dropWhile]
      · rw [List.forall_mem_append]
        exact ⟨fun c => List.mem_takeWhile_imp, List.all_eq_true.mp hafter⟩
      · rw [List.forall_mem_append]
        exact ⟨fun c => List.mem_takeWhile_imp, fun c => List.mem_takeWhile_imp⟩
    · rw [if_neg hshape] at h
      exact absurd rfl h

/-- A number is too long to be read only in a text that otherwise names a release. -/
theorem ofText_eq_tooLong_iff {s : List CodePoint} :
    ofText s = .tooLong ↔ ∃ major minor, Spelled s major minor ∧
      (maxDigits < major.length ∨ maxDigits < minor.length) := by
  constructor
  · intro h
    obtain ⟨major, minor, hspelled⟩ := spelled_of_ofText (s := s) (by rw [h]; simp)
    refine ⟨major, minor, hspelled, ?_⟩
    rw [ofText_of_spelled hspelled] at h
    split at h
    · assumption
    · cases h
  · rintro ⟨major, minor, hspelled, hlong⟩
    rw [ofText_of_spelled hspelled, if_pos hlong]

end Reading

end Release

end SourceUnit
