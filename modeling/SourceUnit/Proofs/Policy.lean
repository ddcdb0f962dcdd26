import SourceUnit.Policy

/-! What a policy makes of a whole list of diagnostics. One equation describes every run of
`reportAll`: what reaches the sink is what the policy lets through up to the first fatal
diagnostic, and that diagnostic is the one that stops the parse. -/
namespace SourceUnit

/-- The diagnostics up to the first fatal one, which is included. -/
def throughFatal : List Diagnostic → List Diagnostic
  | [] => []
  | d :: ds => if d.level = .fatal then [d] else d :: throughFatal ds

def firstFatal? (ds : List Diagnostic) : Option Diagnostic :=
  ds.find? fun d => d.level = .fatal

/-- The failure that a fatal diagnostic raises, before anything found is added to it. -/
def Diagnostic.failure (d : Diagnostic) : Failure := ⟨d.message, some d, [], []⟩

def Sink.pushAll (s : Sink) (ds : List Diagnostic) : Sink := ⟨s.diagnostics ++ ds⟩

@[simp] theorem Sink.pushAll_nil (s : Sink) : s.pushAll [] = s := by
  simp [Sink.pushAll]

@[simp] theorem Sink.pushAll_push (s : Sink) (d : Diagnostic) (ds : List Diagnostic) :
    (s.push d).pushAll ds = s.pushAll (d :: ds) := by
  simp [Sink.pushAll, Sink.push]

@[simp] theorem Diagnostic.escalate_level (d : Diagnostic) : d.escalate.level = .fatal := rfl

@[simp] theorem Diagnostic.isError_eq_true (d : Diagnostic) :
    d.isError = true ↔ d.level ≠ .warning := by
  simp [Diagnostic.isError, Severity.isError]

section Lists

variable {ds : List Diagnostic}

theorem throughFatal_eq_self (h : ∀ d ∈ ds, d.level ≠ .fatal) : throughFatal ds = ds := by
  induction ds with
  | nil => rfl
  | cons d ds ih =>
    rw [throughFatal, if_neg (h d (by simp)), ih fun e he => h e (by simp [he])]

theorem firstFatal?_eq_none (h : ∀ d ∈ ds, d.level ≠ .fatal) : firstFatal? ds = none := by
  simpa [firstFatal?] using h

theorem throughFatal_sublist (ds : List Diagnostic) : (throughFatal ds).Sublist ds := by
  induction ds with
  | nil => exact .slnil
  | cons d ds ih =>
    rw [throughFatal]
    split
    · exact .cons_cons d (List.nil_sublist ds)
    · exact .cons_cons d ih

/-- Of escalated diagnostics only the first one counts. -/
theorem throughFatal_escalate (ds : List Diagnostic) :
    throughFatal (ds.map (·.escalate)) = (ds.head?.map (·.escalate)).toList := by
  cases ds with
  | nil => rfl
  | cons d ds => simp [throughFatal]

theorem firstFatal?_escalate (ds : List Diagnostic) :
    firstFatal? (ds.map (·.escalate)) = ds.head?.map (·.escalate) := by
  cases ds with
  | nil => rfl
  | cons d ds => simp [firstFatal?]

/-- Dropping warnings does not change where a report stops: no warning is fatal. -/
theorem throughFatal_filter (ds : List Diagnostic) :
    throughFatal (ds.filter (·.isError)) = (throughFatal ds).filter (·.isError) := by
  induction ds with
  | nil => rfl
  | cons d ds ih =>
    by_cases hfatal : d.level = .fatal
    · have herror : d.isError = true := by simp [hfatal]
      simp [throughFatal, hfatal, herror]
    · by_cases herror : d.isError = true
      · simp [throughFatal, hfatal, herror, ih]
      · simp [throughFatal, hfatal, herror, ih]

theorem firstFatal?_filter (ds : List Diagnostic) :
    firstFatal? (ds.filter (·.isError)) = firstFatal? ds := by
  induction ds with
  | nil => rfl
  | cons d ds ih =>
    unfold firstFatal? at ih ⊢
    by_cases hfatal : d.level = .fatal
    · have herror : d.isError = true := by simp [hfatal]
      simp [hfatal, herror]
    · by_cases herror : d.isError = true
      · simp [hfatal, herror, ih]
      · simp [hfatal, herror, ih]

/-- The first diagnostic is delivered whatever its level. -/
@[simp] theorem head?_throughFatal (ds : List Diagnostic) :
    (throughFatal ds).head? = ds.head? := by
  cases ds with
  | nil => rfl
  | cons d ds =>
    unfold throughFatal
    split
    · rfl
    · rfl

end Lists

namespace Policy

def kept (p : Policy) (ds : List Diagnostic) : List Diagnostic :=
  if p.ignoreWarnings then ds.filter (·.isError) else ds

theorem mem_of_mem_kept (p : Policy) {ds : List Diagnostic} {d : Diagnostic} (h : d ∈ p.kept ds) :
    d ∈ ds := by
  unfold kept at h
  split at h
  · exact (List.mem_filter.mp h).1
  · exact h

/-- What a policy lets through of a list, escalated if it escalates. -/
theorem filterMap_filtered (p : Policy) (ds : List Diagnostic) :
    ds.filterMap p.filtered = if p.allFatal then (p.kept ds).map (·.escalate) else p.kept ds := by
  have hfiltered : p.filtered = fun d =>
      if p.ignoreWarnings && d.level == .warning then none
      else some (if p.allFatal then d.escalate else d) := rfl
  induction ds with
  | nil => simp [kept]
  | cons d ds ih =>
    rw [List.filterMap_cons, ih, hfiltered]
    unfold kept
    cases p.ignoreWarnings with
    | false => cases p.allFatal <;> simp
    | true =>
      cases p.allFatal with
      | false => by_cases hwarning : d.level = .warning <;> simp [hwarning]
      | true => by_cases hwarning : d.level = .warning <;> simp [hwarning]

/-- Every run of `reportAll`, in one equation. -/
theorem reportAll_eq (p : Policy) (sink : Option Sink) (ds : List Diagnostic) :
    p.reportAll sink ds =
      (sink.map (·.pushAll (throughFatal (ds.filterMap p.filtered))),
        (firstFatal? (ds.filterMap p.filtered)).map (·.failure)) := by
  induction ds generalizing sink with
  | nil => simp [reportAll, throughFatal, firstFatal?]
  | cons d ds ih =>
    rw [reportAll, report, List.filterMap_cons]
    cases hkept : p.filtered d with
    | none => simp [ih]
    | some e =>
      by_cases hfatal : e.level = .fatal
      · simp [hfatal, throughFatal, firstFatal?, Diagnostic.failure, Sink.push, Sink.pushAll]
      · simp [hfatal, throughFatal, firstFatal?, ih, Option.map_map, Function.comp_def]

theorem report_eq_reportAll (p : Policy) (sink : Option Sink) (d : Diagnostic) :
    p.report sink d = p.reportAll sink [d] := by
  rw [reportAll]
  rcases p.report sink d with ⟨sink, _ | failure⟩
  · rfl
  · rfl

end Policy

end SourceUnit
