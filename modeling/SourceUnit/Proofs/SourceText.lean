import SourceUnit.Buffer
import SourceUnit.Proofs.Utf8

/-! Which sources are texts. A buffer takes exactly the sources that spell a text, and holds that
text without its byte order mark. -/
namespace SourceUnit

theorem CodePoint.exists_ofChar {c : CodePoint} (h : c.isSurrogate = false) :
    ∃ ch, c = CodePoint.ofChar ch := by
  have hvalid : c.val.isValidChar := by
    simp only [isSurrogate, Bool.and_eq_false_iff, decide_eq_false_iff_not] at h
    have hlt := c.isLt
    unfold Nat.isValidChar
    omega
  exact ⟨Char.ofNatAux c.val hvalid, rfl⟩

theorem CodePoint.isSurrogate_ofChar (ch : Char) : (CodePoint.ofChar ch).isSurrogate = false := by
  have hvalid : ch.toNat < 0xD800 ∨ 0xDFFF < ch.toNat ∧ ch.toNat < 0x110000 := ch.valid
  have hval : (CodePoint.ofChar ch).val = ch.toNat := rfl
  simp only [isSurrogate, hval, Bool.and_eq_false_iff, decide_eq_false_iff_not]
  omega

/-- A text without surrogates is a list of characters. -/
theorem CodePoint.exists_chars {cs : List CodePoint} (h : ∀ c ∈ cs, c.isSurrogate = false) :
    ∃ s : List Char, cs = s.map CodePoint.ofChar := by
  induction cs with
  | nil => exact ⟨[], rfl⟩
  | cons c cs ih =>
    obtain ⟨s, rfl⟩ := ih fun c' hc' => h c' (List.mem_cons_of_mem c hc')
    obtain ⟨ch, rfl⟩ := exists_ofChar (h c List.mem_cons_self)
    exact ⟨ch :: s, rfl⟩

theorem Utf8.encode_injective : Function.Injective encode := by
  intro s t h
  have hdecode := congrArg decode h
  simpa using hdecode

/-- `raw.Spells s`: the source is the text `s`, given by its characters or as UTF-8. -/
def RawSource.Spells : RawSource → List Char → Prop
  | .text cs, s => cs = s.map CodePoint.ofChar
  | .bytes bs, s => bs = Utf8.encode s
  | .other, _ => False

namespace Buffer

variable {raw : RawSource} {s : List Char} (name : String)

theorem normalize_of_spells (h : raw.Spells s) : normalize name raw = .ok (dropMark s) := by
  cases raw with
  | text cs => simp only [normalize, Utf8.chars_eq_ok_iff.mpr h]
  | bytes bs => simp only [normalize, Utf8.decode_eq_ok_iff.mpr h]
  | other => exact h.elim

theorem exists_spelled_of_normalize {text : List Char} {name : String} (h : normalize name raw = .ok text) :
    ∃ s, raw.Spells s ∧ text = dropMark s := by
  cases raw with
  | text cs =>
    cases hchars : Utf8.chars cs with
    | error position => simp [normalize, hchars] at h
    | ok s =>
      simp only [normalize, hchars, Except.ok.injEq] at h
      exact ⟨s, Utf8.chars_eq_ok_iff.mp hchars, h.symm⟩
  | bytes bs =>
    cases hdecode : Utf8.decode bs with
    | error fault => simp [normalize, hdecode] at h
    | ok s =>
      simp only [normalize, hdecode, Except.ok.injEq] at h
      exact ⟨s, Utf8.decode_eq_ok_iff.mp hdecode, h.symm⟩
  | other => cases h

theorem exists_error_of_not_spells (h : ¬∃ s, raw.Spells s) : ∃ e, normalize name raw = .error e := by
  cases hnormal : normalize name raw with
  | error e => exact ⟨e, rfl⟩
  | ok text =>
    obtain ⟨s, hs, -⟩ := exists_spelled_of_normalize hnormal
    exact absurd ⟨s, hs⟩ h

/-- Text and bytes are refused only with a problem that a caller can be told. -/
theorem exists_problem_of_normalize {e : Error} (hraw : raw ≠ .other)
    (h : normalize name raw = .error e) : ∃ p, e.problem? = some p := by
  cases raw with
  | other => exact absurd rfl hraw
  | text s =>
    unfold normalize at h
    cases hchars : Utf8.chars s with
    | ok cs => simp [hchars] at h
    | error position =>
      simp only [hchars, Except.error.injEq] at h
      exact h ▸ ⟨_, rfl⟩
  | bytes bs =>
    unfold normalize at h
    cases hdecode : Utf8.decode bs with
    | ok cs => simp [hdecode] at h
    | error fault =>
      simp only [hdecode, Except.error.injEq] at h
      exact h ▸ ⟨_, rfl⟩

theorem exists_problem_of_not_spells (hraw : raw ≠ .other) (h : ¬∃ s, raw.Spells s) :
    ∃ e p, normalize name raw = .error e ∧ e.problem? = some p := by
  obtain ⟨e, he⟩ := exists_error_of_not_spells name h
  obtain ⟨p, hp⟩ := exists_problem_of_normalize name hraw he
  exact ⟨e, p, he, hp⟩

/-- The buffer holds a text without the byte order mark that may stand in front of it. -/
structure Unmarks (b : Buffer) (s : List Char) : Prop where
  of_mark : ∀ t, s = '\ufeff' :: t → b.source = .ok t
  of_no_mark : s.head? ≠ some '\ufeff' → b.source = .ok s

theorem unmarks_of_source {b : Buffer} (h : b.source = .ok (dropMark s)) : b.Unmarks s := by
  rw [dropMark.eq_def] at h
  split at h
  next rest =>
    constructor
    · rintro t ⟨⟩
      exact h
    · exact fun hhead => absurd rfl hhead
  next hmark =>
    constructor
    · rintro t rfl
      exact absurd rfl (hmark t)
    · exact fun _ => h

end Buffer

end SourceUnit
