import SourceUnit.Proofs.RegistryHistory
import SourceUnit.Proofs.ReleaseText

/-! Which values a registry gives a verdict on. A value gets none exactly if a number in it is too
long: one that is to be read from a text, or one that is to be written into a message. -/
namespace SourceUnit

namespace Release

/-- A number in the value is too long: one of the two that a text spells, or any number in a value
that is neither a text, nor a release, nor a pair of numbers. -/
inductive Overlong : Value → Prop where
  | text {s major minor : List CodePoint} : Spelled s major minor →
    maxDigits < major.length ∨ maxDigits < minor.length → Overlong (.str s)
  | other {v : Value} {n : Int} : (∀ r, v ≠ .release r) → (∀ a b, v ≠ .tuple [.int a, .int b]) →
    v.Holds n → maxDigits < n.natAbs.repr.length → Overlong v

theorem overlong_str_iff (s : List CodePoint) : Overlong (.str s) ↔ ofText s = .tooLong := by
  rw [ofText_eq_tooLong_iff]
  constructor
  · rintro (⟨hspelled, hlong⟩ | ⟨-, -, hholds, -⟩)
    · exact ⟨_, _, hspelled, hlong⟩
    · cases hholds
  · rintro ⟨major, minor, hspelled, hlong⟩
    exact .text hspelled hlong

theorem overlong_other_iff {v : Value} (hrelease : ∀ r, v ≠ .release r)
    (hpair : ∀ a b, v ≠ .tuple [.int a, .int b]) (hstr : ∀ s, v ≠ .str s) :
    Overlong v ↔ isShowable v = false := by
  rw [Bool.eq_false_iff, ne_eq, isShowable_iff]
  constructor
  · rintro (⟨-, -⟩ | ⟨-, -, hholds, hlong⟩) hshort
    · exact hstr _ rfl
    · exact Nat.not_le.mpr hlong (hshort _ hholds)
  · intro h
    simp only [Value.Writable, not_forall, Nat.not_le] at h
    obtain ⟨n, hholds, hlong⟩ := h
    exact .other hrelease hpair hholds hlong

theorem parse_cases (v : Value) :
    (Overlong v ∧ parse v = .error .numberTooLong) ∨
      (¬Overlong v ∧ ((∃ r, parse v = .ok r) ∨ parse v = .error (.unknownRelease v))) := by
  unfold parse
  split
  case h_1 r =>
    refine .inr ⟨?_, .inl ⟨r, rfl⟩⟩
    rintro (_ | ⟨hrelease, -, -, -⟩)
    exact hrelease r rfl
  case h_2 major minor =>
    refine .inr ⟨?_, .inl ⟨_, rfl⟩⟩
    rintro (_ | ⟨-, hpair, -, -⟩)
    exact hpair major minor rfl
  case h_3 s =>
    rw [overlong_str_iff]
    cases ofText s with
    | release r => exact .inr ⟨nofun, .inl ⟨r, rfl⟩⟩
    | tooLong => exact .inl ⟨rfl, rfl⟩
    | none => exact .inr ⟨nofun, .inr rfl⟩
  -- only here is the value itself shown in the message
  case h_4 hrelease hpair hstr =>
    rw [overlong_other_iff hrelease hpair hstr]
    cases isShowable v with
    | true => exact .inr ⟨nofun, .inr rfl⟩
    | false => exact .inl ⟨rfl, rfl⟩

end Release

namespace Registry

variable {α : Type}

open Release (Overlong leastLong leastLong_long)

/-- A registry supports what it has a maker for. It gives no verdict on a value with a number that is
too long, and one on every other value. -/
theorem supports_agrees_select (r : Registry α) (v : Value) :
    (r.supports v = .ok true ↔ ∃ maker, r.select v = .ok maker) ∧
      (¬Overlong v → ∃ b, r.supports v = .ok b) ∧
      (Overlong v →
        r.supports v = .error .numberTooLong ∧ r.select v = .error .numberTooLong) := by
  rcases Release.parse_cases v with ⟨hlong, hparse⟩ | ⟨hshort, ⟨release, hparse⟩ | hparse⟩
  · have hsupports : r.supports v = .error .numberTooLong := by rw [supports, hparse]
    have hselect : r.select v = .error .numberTooLong := by rw [select, hparse]
    rw [hsupports, hselect]
    exact ⟨by simp, fun h => absurd hlong h, fun _ => ⟨rfl, rfl⟩⟩
  · rw [supports_of_parse r hparse, select_of_parse r hparse]
    refine ⟨?_, fun _ => ⟨_, rfl⟩, fun h => absurd h hshort⟩
    cases r.find? release <;> simp
  · have hsupports : r.supports v = .ok false := by rw [supports, hparse]
    have hselect : r.select v = .error (.unknownRelease v) := by rw [select, hparse]
    rw [hsupports, hselect]
    exact ⟨by simp, fun _ => ⟨false, rfl⟩, fun h => absurd h hshort⟩

/-- Deep inside another value the number leaves no verdict; in a pair it is only compared. -/
theorem supports_agrees_select_of_leastLong :
    (standard id).supports (.list [.dict [(.none, .int leastLong)]]) = .error .numberTooLong ∧
      ∃ b, (standard id).supports (.tuple [.int 3, .int leastLong]) = .ok b := by
  constructor
  · refine ((supports_agrees_select (standard id) _).2.2 ?_).1
    exact .other nofun nofun (.list List.mem_cons_self (.item List.mem_cons_self .int)) leastLong_long
  · refine (supports_agrees_select (standard id) _).2.1 ?_
    rintro (_ | ⟨-, hpair, -, -⟩)
    exact hpair 3 leastLong rfl

def longRun : List CodePoint := List.replicate (Release.maxDigits + 1) (.ofChar '1')

theorem maxDigits_lt_longRun : Release.maxDigits < longRun.length := by
  rw [longRun, List.length_replicate]
  exact Nat.lt_succ_self _

/-- The text of a release `3.11…1` with one digit too many. -/
def longText : List CodePoint := .ofChar '3' :: Release.point :: longRun

theorem spelled_longText : Release.Spelled longText [.ofChar '3'] longRun where
  split := ⟨[], [], by simp [longText], nofun⟩
  digits c hc := by
    rw [List.singleton_append, List.mem_cons, longRun, List.mem_replicate] at hc
    obtain rfl | ⟨-, rfl⟩ := hc
    all_goals decide +kernel
  major_ne := List.cons_ne_nil _ _
  minor_ne := List.length_pos_iff.mp (Nat.zero_lt_of_lt maxDigits_lt_longRun)

theorem longText_without_verdict : ¬∃ b, (standard id).supports (.str longText) = .ok b := by
  have htext : Release.ofText longText = .tooLong :=
    Release.ofText_eq_tooLong_iff.mpr ⟨_, _, spelled_longText, .inr maxDigits_lt_longRun⟩
  have hparse : Release.parse (.str longText) = .error .numberTooLong := by
    simp only [Release.parse, htext]
  rintro ⟨b, hb⟩
  rw [supports, hparse] at hb
  cases hb

end Registry

end SourceUnit
