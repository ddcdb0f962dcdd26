import SourceUnit.Proofs.WrittenNumbers
import SourceUnit.Registry

/-! Histories of a registry. Of all the calls that name a release, in whatever spelling, the last one
that registers or unregisters it decides; makers are handed on and never looked into. -/
namespace SourceUnit

namespace Release

theorem before_iff (a b : Release) :
    a.before b = true ↔ a.major < b.major ∨ a.major = b.major ∧ a.minor < b.minor := by
  simp [before]

theorem upTo_iff (a b : Release) :
    a.upTo b = true ↔ a.major < b.major ∨ a.major = b.major ∧ a.minor ≤ b.minor := by
  rw [upTo, Bool.not_eq_true', Bool.eq_false_iff, ne_eq, before_iff]
  omega

theorem upTo_trans (a b c : Release) (hab : a.upTo b = true) (hbc : b.upTo c = true) :
    a.upTo c = true := by
  rw [upTo_iff] at *
  omega

theorem upTo_total (a b : Release) : (a.upTo b || b.upTo a) = true := by
  rw [Bool.or_eq_true, upTo_iff, upTo_iff]
  omega

theorem before_of_upTo {a b : Release} (h : a.upTo b = true) (hne : a ≠ b) : a.before b = true := by
  rw [upTo_iff] at h
  rw [before_iff]
  have hparts : ¬(a.major = b.major ∧ a.minor = b.minor) := fun ⟨hmajor, hminor⟩ =>
    hne (by cases a; cases b; simp_all)
  omega

/-- Distinct releases are sorted strictly. -/
theorem pairwise_sort {rs : List Release} (h : rs.Nodup) :
    (sort rs).Pairwise fun a b => a.before b = true := by
  have hsorted := List.pairwise_mergeSort upTo_trans upTo_total rs
  have hdistinct : (sort rs).Nodup := (List.mergeSort_perm rs upTo).nodup_iff.mpr h
  exact (hsorted.and hdistinct).imp fun ⟨hle, hne⟩ => before_of_upTo hle hne

theorem mem_sort {r : Release} {rs : List Release} : r ∈ sort rs ↔ r ∈ rs :=
  List.mem_mergeSort

end Release

namespace Registry

variable {α β : Type}

/-! ### Entries -/

@[simp] theorem lookup_cons_entry (release : Release) (e : Release × α)
    (entries : List (Release × α)) :
    (e :: entries).lookup release = if release = e.1 then some e.2 else entries.lookup release := by
  rw [List.lookup_cons]
  by_cases h : release = e.1
  · simp [h]
  · simp [beq_false_of_ne h, h]

theorem lookup_replace (release other : Release) (maker : α) (entries : List (Release × α)) :
    (entries.map fun e => if e.1 = release then (release, maker) else e).lookup other =
      if other = release then (entries.lookup release).map fun _ => maker
      else entries.lookup other := by
  induction entries with
  | nil => simp
  | cons e entries ih =>
    rw [List.map_cons, lookup_cons_entry, ih, lookup_cons_entry, lookup_cons_entry]
    by_cases h : e.1 = release <;> by_cases hother : other = release <;> grind

theorem lookup_filter (release other : Release) (entries : List (Release × α)) :
    (entries.filter (·.1 ≠ release)).lookup other =
      if other = release then none else entries.lookup other := by
  induction entries with
  | nil => simp
  | cons e entries ih =>
    rw [lookup_cons_entry, List.filter_cons]
    by_cases h : e.1 = release <;> by_cases hother : other = release <;> grind [lookup_cons_entry]

theorem find?_put (r : Registry α) (release other : Release) (maker : α) :
    (r.put release maker).find? other = if other = release then some maker else r.find? other := by
  unfold put
  split
  next h =>
    obtain ⟨old, hold⟩ := Option.isSome_iff_exists.mp h
    have hlookup : r.entries.lookup release = some old := hold
    simp [find?, lookup_replace, hlookup]
  next h =>
    have hnone : r.entries.lookup release = none := Option.not_isSome_iff_eq_none.mp h
    by_cases hother : other = release
    · simp [find?, List.lookup_append, hother, hnone]
    · simp [find?, List.lookup_append, hother]

theorem find?_erase (r : Registry α) (release other : Release) :
    (r.erase release).find? other = if other = release then none else r.find? other :=
  lookup_filter release other r.entries

theorem find?_standard (make : Release → α) (release : Release) :
    (standard make).find? release =
      if release ∈ standardReleases then some (make release) else none := by
  unfold find? standard
  induction standardReleases with
  | nil => rfl
  | cons r rs ih =>
    rw [List.map_cons, lookup_cons_entry, ih]
    by_cases h : release = r <;> simp [h]

/-! ### Releases that have a maker -/

theorem mem_keys_iff (r : Registry α) (release : Release) :
    release ∈ r.entries.map (·.1) ↔ ∃ maker, r.find? release = some maker := by
  unfold find?
  induction r.entries with
  | nil => simp
  | cons e entries ih =>
    rw [List.map_cons, List.mem_cons, lookup_cons_entry, ih]
    by_cases h : release = e.1 <;> simp [h]

theorem mem_supported_iff (r : Registry α) (release : Release) :
    release ∈ r.supported ↔ ∃ maker, r.find? release = some maker := by
  rw [supported, Release.mem_sort, mem_keys_iff]

/-- No release has two entries. -/
def Keyed (r : Registry α) : Prop := (r.entries.map (·.1)).Nodup

variable {r : Registry α}

theorem Keyed.put (h : r.Keyed) (release : Release) (maker : α) : (r.put release maker).Keyed := by
  unfold Registry.put
  split
  next =>
    have hkeys : (r.entries.map fun e => if e.1 = release then (release, maker) else e).map (·.1) =
        r.entries.map (·.1) := by
      rw [List.map_map]
      apply List.map_congr_left
      intro e _
      by_cases he : e.1 = release <;> simp [he]
    rwa [Keyed, hkeys]
  next hnone =>
    have hnew : release ∉ r.entries.map (·.1) := by
      rw [mem_keys_iff, ← Option.isSome_iff_exists]
      exact hnone
    rw [Keyed, List.map_append, List.nodup_append]
    refine ⟨h, by simp, ?_⟩
    intro key hkey other hother heq
    rw [List.map_singleton, List.mem_singleton] at hother
    rw [heq, hother] at hkey
    exact hnew hkey

theorem Keyed.erase (h : r.Keyed) (release : Release) : (r.erase release).Keyed :=
  h.sublist (List.filter_sublist.map _)

theorem keys_standard (make : Release → α) :
    (standard make).entries.map (·.1) = standardReleases := by
  simp [standard, Function.comp_def]

theorem keyed_standard (make : Release → α) : (standard make).Keyed := by
  rw [Keyed, keys_standard]
  decide

theorem Keyed.pairwise_supported (h : r.Keyed) :
    r.supported.Pairwise fun a b => a.major < b.major ∨ a.major = b.major ∧ a.minor < b.minor :=
  (Release.pairwise_sort h).imp fun hbefore => (Release.before_iff _ _).mp hbefore

/-! ### Calls -/

inductive Call (α : Type) where
  | register (v : Value) (maker : α)
  | unregister (v : Value)
  | select (v : Value)
  | supports (v : Value)
  | supported

inductive Answer (α : Type) where
  | done
  | maker (a : α)
  | verdict (b : Bool)
  | releases (rs : List Release)

def changed : Except Error Unit × Registry α → Except Error (Answer α) × Registry α
  | (outcome, r) => (outcome.map fun _ => .done, r)

def call (r : Registry α) : Call α → Except Error (Answer α) × Registry α
  | .register v maker => changed (r.register v maker)
  | .unregister v => changed (r.unregister v)
  | .select v => ((r.select v).map .maker, r)
  | .supports v => ((r.supports v).map .verdict, r)
  | .supported => (.ok (.releases r.supported), r)

/-- The answers to calls in order, and the registry after them. -/
def run (r : Registry α) : List (Call α) → List (Except Error (Answer α)) × Registry α
  | [] => ([], r)
  | c :: cs =>
    let first := r.call c
    let rest := first.2.run cs
    (first.1 :: rest.1, rest.2)

theorem call_register (r : Registry α) {v : Value} {release : Release}
    (h : Release.parse v = .ok release) (maker : α) :
    r.call (.register v maker) = (release.write.map fun _ => .done, r.put release maker) := by
  simp only [call, register, h, changed]
  cases release.write <;> rfl

theorem call_unregister (r : Registry α) {v : Value} {release : Release}
    (h : Release.parse v = .ok release) : r.call (.unregister v) = (.ok .done, r.erase release) := by
  simp only [call, unregister, h, changed]
  rfl

/-- A value that names no release changes nothing. -/
theorem call_of_error (r : Registry α) {v : Value} {e : Error} (h : Release.parse v = .error e) :
    r.call (.unregister v) = (.error e, r) ∧ ∀ maker, r.call (.register v maker) = (.error e, r) := by
  simp only [call, unregister, register, h, changed]
  exact ⟨rfl, fun _ => rfl⟩

/-- The release that a call writes, with its new maker or with none. -/
def Call.written? : Call α → Option (Release × Option α)
  | .register v maker => (Release.parse v).toOption.map fun release => (release, some maker)
  | .unregister v => (Release.parse v).toOption.map fun release => (release, none)
  | .select _ | .supports _ | .supported => none

def write (r : Registry α) : Release × Option α → Registry α
  | (release, some maker) => r.put release maker
  | (release, none) => r.erase release

theorem call_snd (r : Registry α) (c : Call α) : (r.call c).2 = (c.written?.map r.write).getD r := by
  cases c with
  | register v maker =>
    cases h : Release.parse v with
    | ok release => simp only [call_register r h, Call.written?, h]; rfl
    | error e => simp only [(call_of_error r h).2, Call.written?, h]; rfl
  | unregister v =>
    cases h : Release.parse v with
    | ok release => simp only [call_unregister r h, Call.written?, h]; rfl
    | error e => simp only [(call_of_error r h).1, Call.written?, h]; rfl
  | select v => rfl
  | supports v => rfl
  | supported => rfl

/-- A run leaves what its writes leave. -/
theorem run_snd (r : Registry α) (calls : List (Call α)) :
    (r.run calls).2 = (calls.filterMap Call.written?).foldl write r := by
  induction calls generalizing r with
  | nil => rfl
  | cons c cs ih =>
    have hstep : (r.run (c :: cs)).2 = ((r.call c).2.run cs).2 := rfl
    rw [hstep, ih, call_snd, List.filterMap_cons]
    cases c.written? <;> rfl

theorem find?_write (r : Registry α) (w : Release × Option α) (release : Release) :
    (r.write w).find? release = if release = w.1 then w.2 else r.find? release := by
  obtain ⟨written, maker?⟩ := w
  cases maker? with
  | none => exact find?_erase r written release
  | some maker => exact find?_put r written release maker

/-- The last write of a release decides what is found. -/
theorem find?_writes (r : Registry α) (ws : List (Release × Option α)) (release : Release) :
    (ws.foldl write r).find? release = (ws.reverse.lookup release).getD (r.find? release) := by
  induction ws generalizing r with
  | nil => rfl
  | cons w ws ih =>
    rw [List.foldl_cons, ih, find?_write, List.reverse_cons, List.lookup_append]
    -- A later write of the release hides this one.
    cases ws.reverse.lookup release with
    | some maker? => rfl
    | none => by_cases h : release = w.1 <;> simp [h]

theorem Keyed.write (h : r.Keyed) (w : Release × Option α) : (r.write w).Keyed := by
  obtain ⟨release, maker?⟩ := w
  cases maker? with
  | none => exact h.erase release
  | some maker => exact h.put release maker

theorem Keyed.run (h : r.Keyed) (calls : List (Call α)) : (r.run calls).2.Keyed := by
  rw [run_snd]
  induction calls.filterMap Call.written? generalizing r with
  | nil => exact h
  | cons w ws ih => exact ih (h.write w)

/-! ### Makers are only handed on -/

def map (f : α → β) (r : Registry α) : Registry β := ⟨r.entries.map fun e => (e.1, f e.2)⟩

def Call.map (f : α → β) : Call α → Call β
  | .register v maker => .register v (f maker)
  | .unregister v => .unregister v
  | .select v => .select v
  | .supports v => .supports v
  | .supported => .supported

def Answer.map (f : α → β) : Answer α → Answer β
  | .done => .done
  | .maker a => .maker (f a)
  | .verdict b => .verdict b
  | .releases rs => .releases rs

theorem find?_map (f : α → β) (r : Registry α) (release : Release) :
    (r.map f).find? release = (r.find? release).map f := by
  unfold find? map
  induction r.entries with
  | nil => rfl
  | cons e entries ih =>
    rw [List.map_cons, lookup_cons_entry, lookup_cons_entry, ih]
    split <;> rfl

theorem map_put (f : α → β) (r : Registry α) (release : Release) (maker : α) :
    (r.put release maker).map f = (r.map f).put release (f maker) := by
  unfold put
  rw [find?_map, Option.isSome_map]
  split
  · simp only [map, List.map_map]
    congr 2
    funext e
    by_cases h : e.1 = release <;> simp [h]
  · simp [map]

theorem map_erase (f : α → β) (r : Registry α) (release : Release) :
    (r.erase release).map f = (r.map f).erase release := by
  simp [erase, map, List.filter_map, Function.comp_def]

theorem supported_map (f : α → β) (r : Registry α) : (r.map f).supported = r.supported := by
  simp [supported, map, Function.comp_def]

theorem refusal_map (f : α → β) (r : Registry α) (v : Value) : (r.map f).refusal v = r.refusal v := by
  simp only [refusal, supported_map]

theorem select_map (f : α → β) (r : Registry α) (v : Value) :
    (r.map f).select v = (r.select v).map f := by
  unfold select
  cases Release.parse v with
  | error e => rfl
  | ok release =>
    simp only [find?_map, refusal_map]
    cases r.find? release <;> rfl

theorem supports_map (f : α → β) (r : Registry α) (v : Value) : (r.map f).supports v = r.supports v := by
  unfold supports
  simp only [find?_map, Option.isSome_map]

theorem call_map (f : α → β) (r : Registry α) (c : Call α) :
    (r.map f).call (c.map f) = ((r.call c).1.map (Answer.map f), (r.call c).2.map f) := by
  cases c with
  | register v maker =>
    cases h : Release.parse v with
    | ok release =>
      simp only [Call.map, call_register _ h, map_put]
      cases release.write <;> rfl
    | error e => simp only [Call.map, (call_of_error _ h).2]; rfl
  | unregister v =>
    cases h : Release.parse v with
    | ok release => simp only [Call.map, call_unregister _ h, map_erase]; rfl
    | error e => simp only [Call.map, (call_of_error _ h).1]; rfl
  | select v =>
    simp only [call, Call.map, select_map]
    cases r.select v <;> rfl
  | supports v =>
    simp only [call, Call.map, supports_map]
    cases r.supports v <;> rfl
  | supported =>
    simp only [call, Call.map, supported_map]
    rfl

theorem run_map (f : α → β) (r : Registry α) (calls : List (Call α)) :
    (r.map f).run (calls.map (Call.map f)) =
      ((r.run calls).1.map (Except.map (Answer.map f)), (r.run calls).2.map f) := by
  induction calls generalizing r with
  | nil => rfl
  | cons c cs ih =>
    simp only [List.map_cons, run, call_map, ih]

/-! ### The last write -/

/-- A new registry, with a maker for every standard release or with none at all. -/
def built : Option (Release → α) → Registry α
  | none => {}
  | some make => standard make

/-- The maker that calls leave a release with: what they last wrote for it, or else its first one. -/
def standing? (defaults? : Option (Release → α)) (calls : List (Call α)) (release : Release) : Option α :=
  ((calls.filterMap Call.written?).reverse.lookup release).getD
    (if release ∈ standardReleases then defaults?.map fun make => make release else none)

theorem find?_built (defaults? : Option (Release → α)) (release : Release) :
    (built defaults?).find? release =
      if release ∈ standardReleases then defaults?.map fun make => make release else none := by
  cases defaults? with
  | none => simp [built, find?]
  | some make => exact find?_standard make release

theorem keyed_built (defaults? : Option (Release → α)) : (built defaults?).Keyed := by
  cases defaults? with
  | none => exact List.nodup_nil
  | some make => exact keyed_standard make

theorem map_built (f : α → β) (defaults? : Option (Release → α)) :
    (built defaults?).map f = built (defaults?.map fun make => f ∘ make) := by
  cases defaults? with
  | none => rfl
  | some make => simp [built, standard, map, Function.comp_def]

theorem find?_history (defaults? : Option (Release → α)) (calls : List (Call α)) (release : Release) :
    ((built defaults?).run calls).2.find? release = standing? defaults? calls release := by
  rw [run_snd, find?_writes, find?_built, standing?]

theorem select_of_parse (r : Registry α) {v : Value} {release : Release}
    (h : Release.parse v = .ok release) :
    r.select v = (r.find? release).elim (.error (r.refusal v)) .ok := by
  simp only [select, h]
  cases r.find? release <;> rfl

theorem explained_iff (r : Registry α) (v : Value) :
    (Release.isShowable v && r.supported.all (·.isWritable)) = true ↔
      v.Writable ∧ ∀ s ∈ r.supported, s.Writable := by
  rw [Bool.and_eq_true, Release.isShowable_iff, List.all_eq_true]
  simp only [Release.isWritable_iff]

theorem refusal_of_writable {v : Value} (h : v.Writable ∧ ∀ s ∈ r.supported, s.Writable) :
    r.refusal v = .unregistered v r.supported := by
  rw [refusal, if_pos ((explained_iff r v).mpr h)]

theorem refusal_of_not_writable {v : Value} (h : ¬(v.Writable ∧ ∀ s ∈ r.supported, s.Writable)) :
    r.refusal v = .numberTooLong := by
  rw [refusal, if_neg (mt (explained_iff r v).mp h)]

theorem writable_supported (h : (r.entries.map (·.1)).all (·.isWritable) = true) :
    ∀ s ∈ r.supported, s.Writable := by
  intro s hs
  rw [supported, Release.mem_sort] at hs
  exact (Release.isWritable_iff s).mp (List.all_eq_true.mp h s hs)

theorem select_put (r : Registry α) {v : Value} {release : Release}
    (h : Release.parse v = .ok release) (maker : α) : (r.put release maker).select v = .ok maker := by
  rw [select_of_parse _ h, find?_put, if_pos rfl]
  rfl

theorem supports_of_parse (r : Registry α) {v : Value} {release : Release}
    (h : Release.parse v = .ok release) : r.supports v = .ok (r.find? release).isSome := by
  simp only [supports, h]

/-- Whatever was called before, a value that names a release selects the maker that was last written
for it. Without a maker the refusal lists the supported releases, but only if the value and all of
them can be written out; and a release that cannot is registered with an error. -/
theorem select_last_write (defaults? : Option (Release → α)) (calls : List (Call α)) :
    let r := ((built defaults?).run calls).2
    (∀ v release, Release.parse v = .ok release →
      (∀ maker, standing? defaults? calls release = some maker → r.select v = .ok maker) ∧
      (standing? defaults? calls release = none →
        (v.Writable ∧ (∀ s ∈ r.supported, s.Writable) →
          ∃ e p, r.select v = .error e ∧ e.problem? = some p ∧ p.kind = .unknownRelease ∧
            p.details = [(.string "supported", .list (r.supported.map fun s => .string s.text))]) ∧
        (¬(v.Writable ∧ ∀ s ∈ r.supported, s.Writable) → r.select v = .error .numberTooLong)) ∧
      (∀ maker, ((r.call (.register v maker)).1 = .ok .done ↔ release.Writable) ∧
        (¬release.Writable → (r.call (.register v maker)).1 = .error .numberTooLong) ∧
        (r.call (.register v maker)).2.select v = .ok maker)) ∧
    (r.supported.Pairwise fun a b => a.major < b.major ∨ a.major = b.major ∧ a.minor < b.minor) ∧
    (∀ v release, Release.parse v = .ok release →
      (release ∈ r.supported ↔ ∃ maker, r.select v = .ok maker) ∧
      (release ∈ r.supported ↔ r.supports v = .ok true)) ∧
    (∀ v e, Release.parse v = .error e →
      r.select v = .error e ∧ r.call (.unregister v) = (.error e, r) ∧
      ∀ maker, r.call (.register v maker) = (.error e, r)) ∧
    (∀ v, (r.call (.select v)).2 = r ∧ (r.call (.supports v)).2 = r) ∧
    ∀ (β : Type) (f : α → β),
      (built (defaults?.map fun make => f ∘ make)).run (calls.map (Call.map f)) =
        (((built defaults?).run calls).1.map (Except.map (Answer.map f)), r.map f) := by
  intro r
  have hkeyed : r.Keyed := (keyed_built defaults?).run calls
  refine ⟨?_, hkeyed.pairwise_supported, ?_, ?_, fun v => ⟨rfl, rfl⟩, ?_⟩
  · intro v release hparse
    rw [← find?_history]
    refine ⟨?_, ?_, fun maker => ?_⟩
    · intro maker hmaker
      rw [select_of_parse r hparse, hmaker]
      rfl
    · intro hnone
      have hselect : r.select v = .error (r.refusal v) := by rw [select_of_parse r hparse, hnone]; rfl
      rw [hselect]
      refine ⟨fun h => ?_, fun h => ?_⟩
      · rw [refusal_of_writable h]
        exact ⟨_, _, rfl, rfl, rfl, rfl⟩
      · rw [refusal_of_not_writable h]
    · rw [call_register r hparse]
      by_cases h : release.Writable
      · rw [h.write_eq]
        exact ⟨⟨fun _ => h, fun _ => rfl⟩, fun hnot => absurd h hnot, select_put r hparse maker⟩
      · rw [Release.write_of_not_writable h]
        exact ⟨⟨nofun, fun hw => absurd hw h⟩, fun _ => rfl, select_put r hparse maker⟩
  · intro v release hparse
    rw [mem_supported_iff, select_of_parse r hparse, supports_of_parse r hparse]
    cases r.find? release <;> simp
  · intro v e hparse
    exact ⟨by simp only [select, hparse], (call_of_error r hparse).1, (call_of_error r hparse).2⟩
  · intro β f
    rw [← map_built, run_map]

/-- Three spellings of one release: padded text, a pair of numbers, and text in other digits. -/
def respelled : List (Call String) :=
  let padded : Value := .str ([' ', '3', '.', '9', '\n'].map CodePoint.ofChar)
  let arabic : Value := .str (['٣', '.', '٩'].map CodePoint.ofChar)
  [.register padded "first", .unregister (.tuple [.int 3, .int 9]), .register .none "lost",
    .register (.release ⟨3, 10⟩) "tenth", .register arabic "last", .unregister (.release ⟨3, 8⟩)]

theorem select_last_write_of_respelled :
    let r := ((built (some Release.text)).run respelled).2
    let named : Value := .tuple [.int 3, .int 9]
    let gone : Value := .release ⟨3, 8⟩
    (Release.parse named = .ok ⟨3, 9⟩ ∧ r.select named = .ok "last") ∧
      (Release.parse gone = .ok ⟨3, 8⟩ ∧ ∃ e p, r.select gone = .error e ∧ e.problem? = some p ∧
        p.details = [(.string "supported", .list (r.supported.map fun s => .string s.text))]) ∧
      Release.parse .none = .error (.unknownRelease .none) ∧
      r.call (.unregister .none) = (.error (.unknownRelease .none), r) := by
  intro r named gone
  obtain ⟨hselect, -, -, hunparsed, -⟩ := select_last_write (some Release.text) respelled
  have hnamed : Release.parse named = .ok ⟨3, 9⟩ := rfl
  have hgone : Release.parse gone = .ok ⟨3, 8⟩ := rfl
  have hnone : Release.parse .none = .error (.unknownRelease .none) := rfl
  have hlast : standing? (some Release.text) respelled ⟨3, 9⟩ = some "last" := by decide +kernel
  have herased : standing? (some Release.text) respelled ⟨3, 8⟩ = none := by decide +kernel
  have hshown : gone.Writable := (Release.isShowable_iff (.release ⟨3, 8⟩)).mp (by decide +kernel)
  have hlisted : ∀ s ∈ r.supported, s.Writable := writable_supported (by decide +kernel)
  obtain ⟨e, p, he, hp, -, hdetails⟩ := ((hselect gone _ hgone).2.1 herased).1 ⟨hshown, hlisted⟩
  exact ⟨⟨hnamed, (hselect named _ hnamed).1 _ hlast⟩, ⟨hgone, e, p, he, hp, hdetails⟩, hnone,
    (hunparsed _ _ hnone).2.1⟩

/-- A pair that names a release, though its number is too long to be written out. -/
def longPair : Value := .tuple [.int Release.leastLong, .int 0]

/-- The refusal of a long release shows it, and every later one lists it once it is registered, so
neither can be written. -/
theorem longPair_without_refusal :
    let r := standard Release.text
    let registered := r.call (.register longPair "long")
    Release.parse longPair = .ok ⟨Release.leastLong, 0⟩ ∧ r.select longPair = .error .numberTooLong ∧
      registered.1 = .error .numberTooLong ∧
      registered.2.select (.release ⟨3, 7⟩) = .error .numberTooLong := by
  intro r registered
  have hparse : Release.parse longPair = .ok ⟨Release.leastLong, 0⟩ := rfl
  have hlong := Release.not_writable_leastLong 0
  have hcall : registered = (.error .numberTooLong, r.put ⟨Release.leastLong, 0⟩ "long") := by
    unfold registered
    rw [call_register r hparse, Release.write_of_not_writable hlong]
    rfl
  refine ⟨hparse, ?_, by rw [hcall], ?_⟩
  · have hnew : r.find? ⟨Release.leastLong, 0⟩ = none := by
      rw [Option.eq_none_iff_forall_ne_some]
      intro maker hmaker
      have hmem := (mem_supported_iff r _).mpr ⟨maker, hmaker⟩
      exact hlong (writable_supported (by decide +kernel) _ hmem)
    rw [select_of_parse r hparse, hnew, refusal_of_not_writable]
    · rfl
    · exact fun h => Nat.not_le.mpr Release.leastLong_long (h.1 _ (.tuple List.mem_cons_self .int))
  · have hnew : registered.2.find? ⟨3, 7⟩ = none := by
      rw [hcall, find?_put, if_neg (by simp), find?_standard]
      rfl
    rw [select_of_parse _ rfl, hnew, refusal_of_not_writable]
    · rfl
    · intro h
      refine hlong (h.2 _ ((mem_supported_iff _ _).mpr ⟨"long", ?_⟩))
      rw [hcall, find?_put, if_pos rfl]

end Registry

end SourceUnit
