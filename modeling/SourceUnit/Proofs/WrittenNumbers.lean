import SourceUnit.Release.Parse

/-! Which values and releases can be written into a message or the log: those whose numbers all have few
enough digits. -/
namespace SourceUnit

/-- The number stands in the value, at whatever depth. -/
inductive Value.Holds (n : Int) : Value → Prop where
  | int : Holds n (.int n)
  | list {vs : List Value} {v : Value} : v ∈ vs → Holds n v → Holds n (.list vs)
  | tuple {vs : List Value} {v : Value} : v ∈ vs → Holds n v → Holds n (.tuple vs)
  | key {es : List (Value × Value)} {e : Value × Value} : e ∈ es → Holds n e.1 → Holds n (.dict es)
  | item {es : List (Value × Value)} {e : Value × Value} : e ∈ es → Holds n e.2 → Holds n (.dict es)
  | major {r : Release} : r.major = n → Holds n (.release r)
  | minor {r : Release} : r.minor = n → Holds n (.release r)

/-- Every number in the value has few enough digits to be written out. -/
def Value.Writable (v : Value) : Prop :=
  ∀ n, v.Holds n → n.natAbs.repr.length ≤ Release.maxDigits

/-- Both numbers of the release have few enough digits to be written out. -/
structure Release.Writable (r : Release) : Prop where
  major : r.major.natAbs.repr.length ≤ maxDigits
  minor : r.minor.natAbs.repr.length ≤ maxDigits

namespace Release

theorem isShort_iff (n : Int) : isShort n = true ↔ n.natAbs.repr.length ≤ maxDigits := by
  have hpos : 0 < maxDigits := by decide
  rw [isShort, decide_eq_true_eq, Nat.pow_eq, Nat.length_repr_le_iff hpos]

theorem areShowable_iff (vs : List Value) : areShowable vs = true ↔ ∀ v ∈ vs, isShowable v = true := by
  induction vs with
  | nil => simp [areShowable]
  | cons v vs ih => simp [areShowable, ih]

theorem entriesShowable_iff (es : List (Value × Value)) :
    entriesShowable es = true ↔ ∀ e ∈ es, isShowable e.1 = true ∧ isShowable e.2 = true := by
  induction es with
  | nil => simp [entriesShowable]
  | cons e es ih => simp only [entriesShowable, Bool.and_eq_true, ih, List.forall_mem_cons]

theorem isShort_of_holds {v : Value} {n : Int} (hv : isShowable v = true) (hn : v.Holds n) :
    isShort n = true := by
  induction hn with
  | int => rwa [isShowable] at hv
  | list hmem _ ih | tuple hmem _ ih =>
    rw [isShowable, areShowable_iff] at hv
    exact ih (hv _ hmem)
  | key hmem _ ih =>
    rw [isShowable, entriesShowable_iff] at hv
    exact ih (hv _ hmem).1
  | item hmem _ ih =>
    rw [isShowable, entriesShowable_iff] at hv
    exact ih (hv _ hmem).2
  | major h =>
    rw [isShowable, isWritable, Bool.and_eq_true, h] at hv
    exact hv.1
  | minor h =>
    rw [isShowable, isWritable, Bool.and_eq_true, h] at hv
    exact hv.2

-- A number that is held is reached along `Holds`. The converse asks about every part of a value, so
-- it follows the check itself.
mutual

theorem isShowable_of_holds : (v : Value) → (∀ n, v.Holds n → isShort n = true) → isShowable v = true
  | .int n, h => by
    rw [isShowable]
    exact h n .int
  | .list vs, h => by
    rw [isShowable]
    exact areShowable_of_holds vs fun v hv n hn => h n (.list hv hn)
  | .tuple vs, h => by
    rw [isShowable]
    exact areShowable_of_holds vs fun v hv n hn => h n (.tuple hv hn)
  | .dict es, h => by
    rw [isShowable]
    exact entriesShowable_of_holds es fun e he n hn =>
      hn.elim (fun hkey => h n (.key he hkey)) (fun hitem => h n (.item he hitem))
  | .release r, h => by
    rw [isShowable, isWritable, h r.major (.major rfl), h r.minor (.minor rfl)]
    rfl
  | .none, _ | .bool _, _ | .float _, _ | .str _, _ | .bytes _, _ => by simp [isShowable]

theorem areShowable_of_holds :
    (vs : List Value) → (∀ v ∈ vs, ∀ n, v.Holds n → isShort n = true) → areShowable vs = true
  | [], _ => by rw [areShowable]
  | v :: vs, h => by
    rw [List.forall_mem_cons] at h
    rw [areShowable, isShowable_of_holds v h.1, areShowable_of_holds vs h.2]
    rfl

theorem entriesShowable_of_holds :
    (es : List (Value × Value)) →
    (∀ e ∈ es, ∀ n, e.1.Holds n ∨ e.2.Holds n → isShort n = true) → entriesShowable es = true
  | [], _ => by rw [entriesShowable]
  | (k, v) :: es, h => by
    rw [List.forall_mem_cons] at h
    rw [entriesShowable, isShowable_of_holds k fun n hn => h.1 n (.inl hn),
      isShowable_of_holds v fun n hn => h.1 n (.inr hn), entriesShowable_of_holds es h.2]
    rfl

end

theorem isShowable_iff (v : Value) : isShowable v = true ↔ v.Writable := by
  unfold Value.Writable
  simp only [← isShort_iff]
  exact ⟨fun hv n hn => isShort_of_holds hv hn, isShowable_of_holds v⟩

theorem isWritable_iff (r : Release) : r.isWritable = true ↔ r.Writable := by
  rw [isWritable, Bool.and_eq_true, isShort_iff, isShort_iff]
  exact ⟨fun h => ⟨h.1, h.2⟩, fun h => ⟨h.major, h.minor⟩⟩

theorem Writable.write_eq {r : Release} (h : r.Writable) : r.write = .ok r.text := by
  rw [write, if_pos ((isWritable_iff r).mpr h)]

theorem write_of_not_writable {r : Release} (h : ¬r.Writable) : r.write = .error .numberTooLong := by
  rw [write, if_neg (mt (isWritable_iff r).mp h)]

/-- The least number that is too long. -/
def leastLong : Int := Nat.cast (Nat.pow 10 maxDigits)

theorem leastLong_long : maxDigits < leastLong.natAbs.repr.length := by
  rw [← Nat.not_le, ← isShort_iff, isShort, decide_eq_true_eq, leastLong, Int.natAbs_natCast]
  exact Nat.lt_irrefl _

theorem not_writable_leastLong (minor : Int) : ¬(⟨leastLong, minor⟩ : Release).Writable :=
  fun h => Nat.not_le.mpr leastLong_long h.major

end Release

end SourceUnit
