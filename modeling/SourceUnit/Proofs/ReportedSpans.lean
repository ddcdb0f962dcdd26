import Mathlib.Data.Prod.Lex
import SourceUnit.Proofs.Account

/-! Where the diagnostics of a backend point. Missing, zero and negative numbers each go their own way
through the making of a span, and what comes out is well formed exactly if the fault does not name an
end line before its start line. Policies hand spans on unchanged, so this holds of everything that a
run delivers. -/
namespace SourceUnit

/-- Columns count from zero, and the end does not come before the start. -/
structure Span.WellFormed (s : Span) : Prop where
  startCol_nonneg : 0 ≤ s.startCol
  endCol_nonneg : 0 ≤ s.endCol
  start_le_end : toLex (s.startLine, s.startCol) ≤ toLex (s.endLine, s.endCol)

theorem Span.wellFormed_iff (s : Span) :
    s.WellFormed ↔ 0 ≤ s.startCol ∧ 0 ≤ s.endCol ∧
      (s.startLine < s.endLine ∨ s.startLine = s.endLine ∧ s.startCol ≤ s.endCol) := by
  constructor
  · intro h
    exact ⟨h.startCol_nonneg, h.endCol_nonneg, Prod.Lex.toLex_le_toLex.mp h.start_le_end⟩
  · rintro ⟨hstart, hend, hle⟩
    exact ⟨hstart, hend, Prod.Lex.toLex_le_toLex.mpr hle⟩

theorem Span.wellFormed_point_iff (line col : Int) : (point line col).WellFormed ↔ 0 ≤ col := by
  rw [wellFormed_iff]
  simp [point]

/-- A diagnostic that points nowhere, or at a well-formed span. -/
def Diagnostic.WellPlaced (d : Diagnostic) : Prop := ∀ s ∈ d.location, s.WellFormed

theorem Diagnostic.wellPlaced_of_location_eq_none {d : Diagnostic} (h : d.location = none) :
    d.WellPlaced := by
  simp [WellPlaced, h]

theorem Diagnostic.wellPlaced_iff_of_location {d : Diagnostic} {s : Span}
    (h : d.location = some s) : d.WellPlaced ↔ s.WellFormed := by
  simp [WellPlaced, h]

theorem Diagnostic.WellPlaced.escalate {d : Diagnostic} (h : d.WellPlaced) :
    d.escalate.WellPlaced := h

/-! ### Faults and warnings -/

@[simp] theorem nonzero_none : nonzero none = none := rfl

@[simp] theorem nonzero_zero : nonzero (some 0) = none := rfl

@[simp] theorem nonzero_some {n : Int} (h : n ≠ 0) : nonzero (some n) = some n := by
  unfold nonzero
  split
  · simp_all
  · rfl

namespace SyntaxFault

/-- The line a fault starts on: the first one, if its line is missing or zero. -/
def firstLine (f : SyntaxFault) : Int :=
  match f.line with
  | none | some 0 => 1
  | some n => n

/-- The end line is missing, zero, or not before the line the fault starts on. -/
def Orderly (f : SyntaxFault) : Prop := ∀ n ∈ f.endLine, n ≠ 0 → f.firstLine ≤ n

theorem firstLine_eq (f : SyntaxFault) : f.firstLine = (nonzero f.line).getD 1 := by
  unfold firstLine
  split
  · simp [*]
  · simp [*]
  · rename_i n hzero hline
    rw [hline, nonzero_some hzero]
    rfl

theorem orderly_iff (f : SyntaxFault) :
    f.Orderly ↔ f.firstLine ≤ (nonzero f.endLine).getD f.firstLine := by
  unfold Orderly
  cases f.endLine with
  | none => simp
  | some n =>
    by_cases hn : n = 0
    · simp [hn]
    · simp [hn]

/-- Columns are raised to zero, and on a single line the end is raised to the start. Nothing is done
about the lines. -/
theorem wellFormed_raised_iff (line endLine start stop : Int) :
    Span.WellFormed ⟨line, max start 0, endLine,
      max (if endLine = line then max stop (max start 0) else stop) 0⟩ ↔ line ≤ endLine := by
  rw [Span.wellFormed_iff]
  dsimp only
  split
  · omega
  · omega

theorem wellPlaced_diagnostic_iff (f : SyntaxFault) : f.diagnostic.WellPlaced ↔ f.Orderly := by
  rw [orderly_iff, firstLine_eq, Diagnostic.wellPlaced_iff_of_location rfl, wellFormed_raised_iff]

end SyntaxFault

/-- Only a fault of the syntax points anywhere. -/
def ParseFault.Orderly : ParseFault → Prop
  | .syntactic f => f.Orderly
  | .refused _ => True

theorem ParseFault.wellPlaced_diagnostic_iff (f : ParseFault) :
    f.diagnostic.WellPlaced ↔ f.Orderly := by
  cases f with
  | syntactic f => exact f.wellPlaced_diagnostic_iff
  | refused message => exact iff_of_true (Diagnostic.wellPlaced_of_location_eq_none rfl) trivial

/-- A fault of the lexer's own has no negative column, if it names a place. -/
def LexFault.Orderly : LexFault → Prop
  | .syntactic f => f.Orderly
  | .token args => ∀ line col, args[1]? = some (.tuple [.int line, .int col]) → 0 ≤ col

theorem LexFault.diagnostic_of_place (message : Value) (line col : Int) (rest : List Value) :
    ∃ d, (LexFault.token (message :: .tuple [.int line, .int col] :: rest)).diagnostic = .ok d ∧
      (d.WellPlaced ↔ 0 ≤ col) := by
  refine ⟨_, rfl, ?_⟩
  rw [Diagnostic.wellPlaced_iff_of_location rfl, Span.wellFormed_point_iff]

theorem LexFault.Orderly.wellPlaced {f : LexFault} (h : f.Orderly) {d : Diagnostic}
    (hd : f.diagnostic = .ok d) : d.WellPlaced := by
  cases f with
  | syntactic f =>
    cases hd
    exact f.wellPlaced_diagnostic_iff.mpr h
  | token args =>
    simp only [diagnostic] at hd
    split at hd
    · rename_i message line col rest
      cases hd
      rw [Diagnostic.wellPlaced_iff_of_location rfl, Span.wellFormed_point_iff]
      exact h line col rfl
    · cases hd
      exact Diagnostic.wellPlaced_of_location_eq_none rfl
    · cases hd
    · cases hd
      exact Diagnostic.wellPlaced_of_location_eq_none rfl

theorem LexFault.mem_told {f : LexFault} {d : Diagnostic} : d ∈ f.told ↔ f.diagnostic = .ok d := by
  unfold told
  cases f.diagnostic with
  | error e => simp [Except.toOption]
  | ok e => simp [Except.toOption, eq_comm]

theorem Warning.wellPlaced_diagnostic (b : Buffer) (w : Warning) : (w.diagnostic b).WellPlaced := by
  rw [Diagnostic.wellPlaced_iff_of_location rfl, Span.wellFormed_iff]
  simp

/-! ### Accounts and runs -/

section Telling

variable {P : Diagnostic → Prop} (hescalate : ∀ d, P d → P d.escalate)

include hescalate

theorem Policy.forall_mem_filtered (p : Policy) {ds : List Diagnostic} (h : ∀ d ∈ ds, P d) :
    ∀ d ∈ ds.filterMap p.filtered, P d := by
  have hkept : ∀ d ∈ p.kept ds, P d := fun d hd => h d (p.mem_of_mem_kept hd)
  rw [p.filterMap_filtered]
  split
  · rw [List.forall_mem_map]
    exact fun d hd => hescalate d (hkept d hd)
  · exact hkept

/-- A property that escalation keeps passes from an account to all that is told of it. -/
theorem Account.forall_told (a : Account) (p : Policy) (sink : Option Sink)
    (hreports : ∀ d ∈ a.reports, P d)
    (hending : ∀ f, a.ending = .error f → ∀ d ∈ f.diagnostic, P d) :
    (∃ ds, (a.tell p sink).sink = sink.map (·.pushAll ds) ∧ ∀ d ∈ ds, P d) ∧
      ∀ f, (a.tell p sink).result = .error f → ∀ d ∈ f.diagnostic, P d := by
  have hseen := p.forall_mem_filtered hescalate hreports
  have hdelivered : ∀ d ∈ throughFatal (a.reports.filterMap p.filtered), P d := fun d hd =>
    hseen d ((throughFatal_sublist _).subset hd)
  unfold tell
  rw [p.reportAll_eq]
  cases hfatal : firstFatal? (a.reports.filterMap p.filtered) with
  | some e =>
    refine ⟨⟨_, rfl, hdelivered⟩, ?_⟩
    rintro f ⟨⟩ d ⟨⟩
    exact hseen e (List.mem_of_find?_eq_some hfatal)
  | none =>
    refine ⟨⟨_, rfl, hdelivered⟩, fun f hf => ?_⟩
    simp only [Option.map_none, finish] at hf
    cases hend : a.ending with
    | error g =>
      rw [hend] at hf
      cases hf
      exact hending g hend
    | ok root =>
      rw [hend] at hf
      cases hf

end Telling

namespace Backend

theorem wellPlaced_reports (buffer : Buffer) {lexing : Lexing} {parsing : Parsing}
    (hlexed : ∀ f ∈ lexing.fault, f.Orderly)
    (hparsed : ∀ f, parsing.result = .error f → f.Orderly) :
    ∀ d ∈ reports buffer lexing parsing, d.WellPlaced := by
  intro d hd
  rw [reports_eq, faults] at hd
  rcases List.mem_append.mp hd with hwarned | hended
  · obtain ⟨w, -, rfl⟩ := List.mem_map.mp hwarned
    exact w.wellPlaced_diagnostic buffer
  · cases hresult : parsing.result with
    | error fault =>
      rw [hresult, List.mem_singleton] at hended
      rw [hended, fault.wellPlaced_diagnostic_iff]
      exact hparsed fault hresult
    | ok m =>
      rw [hresult] at hended
      cases hfault : lexing.fault with
      | none => simp [hfault] at hended
      | some f =>
        rw [hfault] at hended
        exact (hlexed f hfault).wellPlaced (LexFault.mem_told.mp hended)

end Backend

/-- The faults that an engine finds in a text do not end before they start. -/
structure Engine.Orderly (engine : Engine) (name : String) (release : Release)
    (source : List Char) : Prop where
  lexed : ∀ f ∈ (engine.lex source).fault, f.Orderly
  parsed : ∀ parsing, engine.parse name release source = .ok parsing →
    ∀ f, parsing.result = .error f → f.Orderly

namespace Backend

/-- A syntax fault points at a well-formed span exactly if it is orderly, a fault of the lexer's own
exactly if its column is not negative, and a warning always; a parser that refuses a text points
nowhere. So if the faults found are orderly, then all that a run delivers is well placed, and so is
the diagnostic of its failure. -/
theorem run_delivers_wellPlaced (b : Backend) (engine : Engine) (buffer : Buffer)
    (sink : Option Sink) :
    (∀ f : SyntaxFault, f.diagnostic.WellPlaced ↔ f.Orderly) ∧
      (∀ message, (ParseFault.refused message).diagnostic.location = none) ∧
      (∀ message line col rest, ∃ d,
        (LexFault.token (message :: .tuple [.int line, .int col] :: rest)).diagnostic = .ok d ∧
          (d.WellPlaced ↔ 0 ≤ col)) ∧
      (∀ w : Warning, (w.diagnostic buffer).WellPlaced) ∧
      ∀ outcome, b.run engine sink buffer = .ok outcome →
        (∀ source, buffer.source = .ok source → engine.Orderly buffer.name b.release source) →
          (∃ delivered, outcome.sink = sink.map (·.pushAll delivered) ∧
            ∀ d ∈ delivered, d.WellPlaced) ∧
          ∀ failure, outcome.result = .error failure →
            ∀ d ∈ failure.diagnostic, d.WellPlaced := by
  refine ⟨SyntaxFault.wellPlaced_diagnostic_iff, fun message => rfl, LexFault.diagnostic_of_place,
    Warning.wellPlaced_diagnostic buffer, fun outcome hrun horderly => ?_⟩
  obtain ⟨source, parsing, hsource, hparse, rfl⟩ := tells_of_run hrun
  have hparsed := (horderly source hsource).parsed parsing hparse
  refine Account.forall_told (fun d hd => hd.escalate) _ b.policy sink
    (wellPlaced_reports buffer (horderly source hsource).lexed hparsed) fun f hf => ?_
  unfold account at hf
  cases hresult : parsing.result with
  | error fault =>
    simp only [hresult] at hf
    cases hf
    rintro d ⟨⟩
    exact fault.wellPlaced_diagnostic_iff.mpr (hparsed fault hresult)
  | ok m =>
    simp only [hresult] at hf
    cases hf

/-- A fault with negative columns on a negative line, and no end line. -/
def wildFault : SyntaxFault where
  message := "invalid syntax"
  line := some (-4)
  offset := some (-3)
  endLine := some 0
  endOffset := some (-7)

def wildParsing : Parsing where
  warnings := [⟨"invalid escape", "DeprecationWarning", some (-4)⟩]
  result := .error (.syntactic wildFault)

/-- The warning spans a line of a buffer that starts there; the fault is raised to its first column. -/
theorem run_delivers_wellPlaced_of_wildFault :
    let b : Backend := ⟨⟨3, 12⟩, {}⟩
    let engine := Engine.scripted brokenLexing wildParsing
    let buffer : Buffer := { firstLine := -4, text := some ['#', ' ', 'é'] }
    engine.Orderly buffer.name b.release ['#', ' ', 'é'] ∧
      ∃ outcome delivered, b.run engine (some {}) buffer = .ok outcome ∧
        outcome.sink = some ⟨delivered⟩ ∧
        delivered.map (·.location) = [some ⟨-4, 0, -4, 3⟩, some ⟨-4, 0, -4, 0⟩] ∧
        ∀ d ∈ delivered, d.WellPlaced := by
  intro b engine buffer
  have horderly : engine.Orderly buffer.name b.release ['#', ' ', 'é'] := by
    constructor
    · rintro f ⟨⟩ line col ⟨⟩
      decide
    · rintro parsing ⟨⟩ f ⟨⟩ n ⟨⟩ hn
      exact absurd rfl hn
  refine ⟨horderly, ?_⟩
  obtain ⟨-, -, -, -, hrun⟩ := run_delivers_wellPlaced b engine buffer (some {})
  obtain ⟨⟨delivered, hsink, hplaced⟩, -⟩ := hrun _ rfl fun source hsource => by
    cases hsource
    exact horderly
  refine ⟨_, delivered, rfl, hsink, ?_, hplaced⟩
  cases hsink
  decide

end Backend

end SourceUnit
