import Mathlib.Data.List.Basic
import Mathlib.Data.List.Induction
import Mathlib.Data.Nat.Digits.Defs
import Mathlib.Data.Prod.Lex
import SourceUnit.Proofs.RegistryHistory
import SourceUnit.Proofs.ReleaseText

/-! Names of releases. A text names a release exactly if it has the parts of such a name and no run of
digits in it is too long; the text that a release is shown as names the same release. Releases are
ordered by their numbers, which is not the order of their texts. -/
namespace SourceUnit

theorem CodePoint.ofText_append (s t : String) : ofText (s ++ t) = ofText s ++ ofText t := by
  simp [ofText]

namespace Text

theorem digitValue?_of_isDigit {c : Char} (h : c.isDigit = true) :
    digitValue? c.toNat = some (c.toNat - '0'.toNat) := by
  obtain ⟨hlow, hhigh⟩ := Char.isDigit_iff_toNat.mp h
  change 48 ≤ c.toNat at hlow
  change c.toNat ≤ 57 at hhigh
  have hrow : digitRanges.find? (fun r => r.1 ≤ c.toNat && c.toNat ≤ r.2) = some (48, 57) := by
    rw [digitRanges, List.find?_cons_of_pos]
    simp [hlow, hhigh]
  have hvalue : (c.toNat - 48) % 10 = c.toNat - 48 := Nat.mod_eq_of_lt (by omega)
  rw [digitValue?, hrow, Option.map_some, hvalue]
  rfl

end Text

namespace Release

/-! ### Numbers -/

/-- The number that a run of digits stands for: the last digit counts ones, the one before it tens,
and so on. -/
def placeValue (run : List CodePoint) : ℕ :=
  Nat.ofDigits 10 (run.filterMap fun c => Text.digitValue? c.val).reverse

theorem digitsValue_eq_placeValue {run : List CodePoint}
    (h : ∀ c ∈ run, Text.isDigit c.val = true) : digitsValue run = placeValue run := by
  induction run using List.reverseRecOn with
  | nil => rfl
  | append_singleton run c ih =>
    rw [List.forall_mem_append] at h
    obtain ⟨v, hv⟩ := Option.isSome_iff_exists.mp (h.2 c List.mem_cons_self)
    have hvalue : digitsValue (run ++ [c]) = 10 * digitsValue run + v := by
      simp [digitsValue, hv]
    have hplaces : placeValue (run ++ [c]) = v + 10 * placeValue run := by
      simp [placeValue, hv, Nat.ofDigits_cons]
    rw [hvalue, hplaces, ih h.1, Nat.add_comm]

/-- The digits of a number as code points. -/
def written (n : ℕ) : List CodePoint := (Nat.toDigits 10 n).map CodePoint.ofChar

theorem written_eq (n : ℕ) : CodePoint.ofText (toString n) = written n := by
  rw [CodePoint.ofText, Nat.toString_eq_ofList_toDigits, String.toList_ofList, written]

theorem digitValue?_of_mem_toDigits {n : ℕ} {c : Char} (hc : c ∈ Nat.toDigits 10 n) :
    Text.digitValue? (CodePoint.ofChar c).val = some (c.toNat - '0'.toNat) :=
  Text.digitValue?_of_isDigit (Nat.isDigit_of_mem_toDigits (by decide) (by decide) hc)

theorem isDigit_of_mem_written {n : ℕ} {c : CodePoint} (hc : c ∈ written n) :
    Text.isDigit c.val = true := by
  obtain ⟨d, hd, rfl⟩ := List.mem_map.mp hc
  rw [Text.isDigit, digitValue?_of_mem_toDigits hd]
  rfl

theorem written_ne_nil (n : ℕ) : written n ≠ [] := by
  rw [written, ne_eq, List.map_eq_nil_iff]
  exact Nat.toDigits_ne_nil

theorem digitsValue_written (n : ℕ) : digitsValue (written n) = n := by
  calc digitsValue (written n)
      = (Nat.toDigits 10 n).foldl (fun m c => 10 * m + (c.toNat - '0'.toNat)) 0 := by
        rw [digitsValue, written, List.foldl_map]
        refine List.foldl_ext _ _ _ fun m c hc => ?_
        rw [digitValue?_of_mem_toDigits hc, Option.getD_some]
    _ = Nat.ofDigitChars 10 (Nat.toDigits 10 n) 0 := Nat.ofDigitChars_eq_foldl.symm
    _ = n := Nat.ofDigitChars_ten_toDigits

/-! ### Texts -/

/-- Neither number has too many digits. -/
def Parts.Short (p : Parts) : Prop := p.major.length ≤ maxDigits ∧ p.minor.length ≤ maxDigits

theorem Parts.short_iff (p : Parts) :
    p.Short ↔ ¬(maxDigits < p.major.length ∨ maxDigits < p.minor.length) := by
  rw [Parts.Short]
  omega

def Parts.release (p : Parts) : Release := ⟨placeValue p.major, placeValue p.minor⟩

theorem parse_of_short {p : Parts} (h : p.Short) : parse (.str p.text) = .ok p.release := by
  have hmajor := digitsValue_eq_placeValue fun c hc => p.digits c (List.mem_append_left _ hc)
  have hminor := digitsValue_eq_placeValue fun c hc => p.digits c (List.mem_append_right _ hc)
  have htext := ofText_of_parts p
  rw [if_neg (p.short_iff.mp h), hmajor, hminor] at htext
  simp only [parse, htext, Parts.release]

theorem parse_of_not_short {p : Parts} (h : ¬p.Short) :
    parse (.str p.text) = .error .numberTooLong := by
  have htext := ofText_of_parts p
  rw [if_pos (not_not.mp (mt p.short_iff.mpr h))] at htext
  simp only [parse, htext]

theorem parse_of_no_parts {s : List CodePoint} (h : ¬∃ p : Parts, p.text = s) :
    parse (.str s) = .error (.unknownRelease (.str s)) := by
  have htext : ofText s = .none := by
    by_contra hne
    obtain ⟨major, minor, hspelled⟩ := spelled_of_ofText hne
    obtain ⟨p, hp, -⟩ := hspelled.exists_parts
    exact h ⟨p, hp⟩
  simp only [parse, htext]

section Verdicts

variable (s : List CodePoint)

theorem parse_str_cases :
    (∃ p : Parts, p.text = s ∧ p.Short ∧ parse (.str s) = .ok p.release) ∨
      (∃ p : Parts, p.text = s ∧ ¬p.Short ∧ parse (.str s) = .error .numberTooLong) ∨
      (¬∃ p : Parts, p.text = s) ∧ parse (.str s) = .error (.unknownRelease (.str s)) := by
  by_cases hparts : ∃ p : Parts, p.text = s
  · obtain ⟨p, rfl⟩ := hparts
    by_cases hshort : p.Short
    · exact .inl ⟨p, rfl, hshort, parse_of_short hshort⟩
    · exact .inr (.inl ⟨p, rfl, hshort, parse_of_not_short hshort⟩)
  · exact .inr (.inr ⟨hparts, parse_of_no_parts hparts⟩)

theorem parse_str_ok_iff (r : Release) :
    parse (.str s) = .ok r ↔ ∃ p : Parts, p.text = s ∧ p.Short ∧ r = p.release := by
  constructor
  · intro h
    rcases parse_str_cases s with ⟨p, hp, hshort, hok⟩ | ⟨p, -, -, hlong⟩ | ⟨-, hunknown⟩
    · rw [hok] at h
      exact ⟨p, hp, hshort, (Except.ok.inj h).symm⟩
    · rw [hlong] at h
      cases h
    · rw [hunknown] at h
      cases h
  · rintro ⟨p, rfl, hshort, rfl⟩
    exact parse_of_short hshort

theorem parse_str_tooLong_iff :
    parse (.str s) = .error .numberTooLong ↔ ∃ p : Parts, p.text = s ∧ ¬p.Short := by
  constructor
  · intro h
    rcases parse_str_cases s with ⟨p, -, -, hok⟩ | ⟨p, hp, hlong, -⟩ | ⟨-, hunknown⟩
    · rw [hok] at h
      cases h
    · exact ⟨p, hp, hlong⟩
    · rw [hunknown] at h
      cases h
  · rintro ⟨p, rfl, hlong⟩
    exact parse_of_not_short hlong

theorem parse_str_unknown_iff :
    parse (.str s) = .error (.unknownRelease (.str s)) ↔ ¬∃ p : Parts, p.text = s := by
  refine ⟨fun h => ?_, parse_of_no_parts⟩
  rcases parse_str_cases s with ⟨p, -, -, hok⟩ | ⟨p, -, -, hlong⟩ | ⟨hnone, -⟩
  · rw [hok] at h
    cases h
  · rw [hlong] at h
    cases h
  · exact hnone

end Verdicts

/-- The parts of a text that a release is shown as. -/
def partsOf (a b : ℕ) : Parts where
  before := []
  major := written a
  minor := written b
  after := []
  blanks := nofun
  digits _ hc := (List.mem_append.mp hc).elim isDigit_of_mem_written isDigit_of_mem_written
  major_ne := written_ne_nil a
  minor_ne := written_ne_nil b

theorem text_partsOf (a b : ℕ) : (partsOf a b).text = CodePoint.ofText (text ⟨a, b⟩) := by
  have hpoint : CodePoint.ofText "." = [point] := by decide
  have hmajor : CodePoint.ofText (toString (a : ℤ)) = written a := written_eq a
  have hminor : CodePoint.ofText (toString (b : ℤ)) = written b := written_eq b
  simp only [text, CodePoint.ofText_append, hpoint, hmajor, hminor]
  simp [partsOf, Parts.text]

theorem release_partsOf (a b : ℕ) : (partsOf a b).release = ⟨a, b⟩ := by
  have hvalue (n : ℕ) : placeValue (written n) = n := by
    rw [← digitsValue_eq_placeValue fun c => isDigit_of_mem_written, digitsValue_written]
  simp only [partsOf, Parts.release, hvalue]

theorem parse_text {a b : ℕ} (ha : (Nat.toDigits 10 a).length ≤ maxDigits)
    (hb : (Nat.toDigits 10 b).length ≤ maxDigits) :
    parse (.string (text ⟨a, b⟩)) = .ok ⟨a, b⟩ := by
  have hshort : (partsOf a b).Short := by simpa [Parts.Short, partsOf, written] using ⟨ha, hb⟩
  rw [Value.string, ← text_partsOf, parse_of_short hshort, release_partsOf]

/-! ### Order -/

theorem before_iff_toLex (r q : Release) :
    r.before q = true ↔ toLex (r.major, r.minor) < toLex (q.major, q.minor) := by
  rw [before_iff, Prod.Lex.toLex_lt_toLex]

theorem upTo_iff_toLex (r q : Release) :
    r.upTo q = true ↔ toLex (r.major, r.minor) ≤ toLex (q.major, q.minor) := by
  rw [upTo_iff, Prod.Lex.toLex_le_toLex]

/-- As texts, a minor number of two digits may come before one of a single digit. -/
theorem text_ten_lt_text_nine (major : ℤ) : text ⟨major, 10⟩ < text ⟨major, 9⟩ := by
  rw [String.lt_iff]
  simp only [text, String.toList_append]
  exact List.append_left_lt (by decide)

/-- A text has the parts of a name in at most one way. It names a release exactly if it has such parts
and no number is too long, and then the release has the numbers that the runs of digits stand for.
Every other text is refused, as too long if it has the parts and as unknown if not. Shown releases
are read back, and their order is that of the pairs of numbers; the texts are ordered otherwise. -/
theorem parse_accepts_names_and_inverts_text :
    Function.Injective Parts.text ∧
      (∀ s, (∀ r, parse (.str s) = .ok r ↔ ∃ p : Parts, p.text = s ∧ p.Short ∧
          r = ⟨placeValue p.major, placeValue p.minor⟩) ∧
        (parse (.str s) = .error .numberTooLong ↔ ∃ p : Parts, p.text = s ∧ ¬p.Short) ∧
        (parse (.str s) = .error (.unknownRelease (.str s)) ↔ ¬∃ p : Parts, p.text = s)) ∧
      (∀ a b : ℕ, (Nat.toDigits 10 a).length ≤ maxDigits →
        (Nat.toDigits 10 b).length ≤ maxDigits →
          parse (.string (text ⟨a, b⟩)) = .ok ⟨a, b⟩) ∧
      (∀ r q : Release,
        (r.before q = true ↔ toLex (r.major, r.minor) < toLex (q.major, q.minor)) ∧
        (r.upTo q = true ↔ toLex (r.major, r.minor) ≤ toLex (q.major, q.minor))) ∧
      ∀ major : ℤ, before ⟨major, 9⟩ ⟨major, 10⟩ = true ∧
        text ⟨major, 10⟩ < text ⟨major, 9⟩ := by
  refine ⟨Parts.text_injective, fun s => ?_, fun a b => parse_text, fun r q => ?_, fun major => ?_⟩
  · exact ⟨parse_str_ok_iff s, parse_str_tooLong_iff s, parse_str_unknown_iff s⟩
  · exact ⟨before_iff_toLex r q, upTo_iff_toLex r q⟩
  · refine ⟨?_, text_ten_lt_text_nine major⟩
    rw [before_iff]
    exact .inr ⟨rfl, (by decide : (9 : ℤ) < 10)⟩

/-- Digits of three scripts, with white space around them. -/
def mixedName : Parts where
  before := [.ofChar '\u2003', .ofChar '\t']
  major := [.ofChar '\u0663']
  minor := [.ofChar '\uff11', .ofChar '0']
  after := [.ofChar '\n']
  blanks := List.all_eq_true.mp (by decide +kernel)
  digits := List.all_eq_true.mp (by decide +kernel)
  major_ne := List.cons_ne_nil _ _
  minor_ne := List.cons_ne_nil _ _

/-- The least number of more than so many digits. -/
def leastLonger (digits : ℕ) : ℕ := 10 ^ digits

theorem length_toDigits_le_iff_lt_leastLonger {digits : ℕ} (h : 0 < digits) (n : ℕ) :
    (Nat.toDigits 10 n).length ≤ digits ↔ n < leastLonger digits :=
  Nat.length_toDigits_le_iff (by decide) h

/-- A name in three scripts and the largest number that is not too long are read; the next number and
a name without a minor number are refused. -/
theorem parse_accepts_names_and_inverts_text_of_mixedName :
    let refused := leastLonger maxDigits
    mixedName.Short ∧ parse (.str mixedName.text) = .ok ⟨3, 10⟩ ∧
      parse (.string (text ⟨3, (refused - 1 : ℕ)⟩)) = .ok ⟨3, (refused - 1 : ℕ)⟩ ∧
      parse (.string (text ⟨3, refused⟩)) = .error .numberTooLong ∧
      ¬∃ p : Parts, p.text = CodePoint.ofText "3." := by
  intro refused
  obtain ⟨-, hverdict, hback, -⟩ := parse_accepts_names_and_inverts_text
  have hshort : mixedName.Short := by
    unfold Parts.Short
    decide
  have hdigits (n : ℕ) : (Nat.toDigits 10 n).length ≤ maxDigits ↔ n < refused :=
    length_toDigits_le_iff_lt_leastLonger (by decide) n
  have hpos : 0 < refused := (hdigits 0).mp (by decide)
  have hlong : ¬(partsOf 3 refused).Short := by
    rintro ⟨-, hminor⟩
    simp only [partsOf, written, List.length_map, hdigits] at hminor
    exact Nat.lt_irrefl _ hminor
  refine ⟨hshort, ?_, ?_, ?_, ?_⟩
  · exact ((hverdict _).1 _).mpr ⟨mixedName, rfl, hshort, by decide +kernel⟩
  · exact hback 3 _ (by decide) ((hdigits _).mpr (Nat.sub_lt hpos Nat.one_pos))
  · exact (hverdict _).2.1.mpr ⟨partsOf 3 refused, text_partsOf 3 refused, hlong⟩
  · exact (hverdict _).2.2.mp rfl

end Release

end SourceUnit
