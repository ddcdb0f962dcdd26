import SourceUnit.Proofs.Construction
import SourceUnit.Proofs.SourceText

/-! The two flags of a policy decide what is reported and whether a tree is left. Text, tokens,
comments and everything derived from them do not depend on the flags. -/
namespace SourceUnit

namespace Account

variable (a : Account)

/-- Ignoring warnings takes them out of what is delivered, and changes nothing else. -/
theorem delivered_ignoring :
    a.delivered ⟨false, true⟩ = (a.delivered ⟨false, false⟩).filter (·.isError) :=
  throughFatal_filter a.reports

/-- No warning is fatal by itself, so dropping them never lets a stopped parse go on. -/
theorem tree_ignoring (buffer : Buffer) :
    a.tree ⟨false, true⟩ buffer = a.tree ⟨false, false⟩ buffer := by
  have hfatal : firstFatal? (Policy.kept ⟨false, true⟩ a.reports) =
      firstFatal? (Policy.kept ⟨false, false⟩ a.reports) := firstFatal?_filter a.reports
  unfold tree
  rw [tell_of_lenient a ⟨false, true⟩ _ rfl, tell_of_lenient a ⟨false, false⟩ _ rfl, hfatal]
  rfl

theorem delivered_strict (ignore : Bool) :
    a.delivered ⟨true, ignore⟩ =
      ((a.delivered ⟨false, ignore⟩).head?.map (·.escalate)).toList := by
  unfold delivered
  simp only [if_true, Bool.false_eq_true, if_false, head?_throughFatal]
  rfl

theorem delivered_lenient_eq_nil (ignore : Bool) :
    a.delivered ⟨false, ignore⟩ = [] ↔ Policy.kept ⟨true, ignore⟩ a.reports = [] := by
  rw [← List.head?_eq_none_iff, ← List.head?_eq_none_iff]
  unfold delivered
  simp only [Bool.false_eq_true, if_false, head?_throughFatal]
  rfl

/-- Escalation costs the tree exactly when there is something to report. -/
theorem tree_strict (ignore : Bool) (buffer : Buffer) :
    a.tree ⟨true, ignore⟩ buffer =
      if a.delivered ⟨false, ignore⟩ = [] then a.tree ⟨false, ignore⟩ buffer else none := by
  cases hkept : Policy.kept ⟨true, ignore⟩ a.reports with
  | nil =>
    have hfatal : ∀ d ∈ Policy.kept ⟨false, ignore⟩ a.reports, d.level ≠ .fatal := by
      change ∀ d ∈ Policy.kept ⟨true, ignore⟩ a.reports, _
      simp [hkept]
    rw [if_pos ((delivered_lenient_eq_nil a ignore).mpr hkept)]
    unfold tree
    rw [tell_of_strict_nil a _ _ rfl hkept, tell_of_no_fatal a _ _ rfl hfatal]
    rfl
  | cons d ds =>
    rw [if_neg (mt (delivered_lenient_eq_nil a ignore).mp (by simp [hkept]))]
    unfold tree
    rw [tell_of_strict_cons a _ _ rfl hkept]
    rfl

end Account

/-- Settings with the two flags of the policy replaced. -/
def Settings.withFlags (s : Settings) (fatal ignore : Bool) : Settings :=
  { s with allErrorsFatal := fatal, ignoreWarnings := ignore }

namespace ParsedUnit

/-- Units that differ at most in their tree and diagnostics. -/
structure SameText (u v : ParsedUnit) : Prop where
  path : u.path = v.path
  buffer : u.buffer = v.buffer
  tokens : u.tokens = v.tokens
  comments : u.comments = v.comments
  lines : u.lines = v.lines
  checksum : u.checksum = v.checksum
  encodingError : u.encodingError = v.encodingError

/-- A unit is made under all four settings of the flags, with the same text each time. Ignoring
warnings only filters the diagnostics. Making errors fatal leaves the first diagnostic, escalated,
and costs the tree if there is one. -/
theorem build_under_flags (settings : Settings) (registry : Registry Maker) (engine : Engine)
    (wanted : Option Value) (path : Option String) (raw : RawSource) {maker : Maker}
    (hselect : registry.select (wanted.getD (.string settings.release)) = .ok maker)
    (hraw : raw ≠ .other)
    (hsound : ∀ text, Buffer.normalize (bufferName path) raw = .ok text →
      maker.Sound engine (bufferName path) text) :
    ∃ u : Bool → Bool → ParsedUnit,
      (∀ fatal ignore,
        (build (settings.withFlags fatal ignore) registry engine wanted path raw).Makes
          (wanted.getD (.string settings.release)) (u fatal ignore)) ∧
      (∀ fatal ignore fatal' ignore', (u fatal ignore).SameText (u fatal' ignore')) ∧
      (u false true).diagnostics = (u false false).diagnostics.filter (·.level ≠ .warning) ∧
      (u false true).tree = (u false false).tree ∧
      ∀ ignore,
        (u true ignore).diagnostics =
          ((u false ignore).diagnostics.head?.map (·.escalate)).toList ∧
        (u true ignore).tree =
          if (u false ignore).diagnostics = [] then (u false ignore).tree else none := by
  obtain ⟨release, hrelease⟩ := exists_release_of_select hselect
  have hwarning : (fun d : Diagnostic => decide (d.level ≠ .warning)) = (·.isError) := by
    funext d
    cases hlevel : d.level <;> simp [Diagnostic.isError, Severity.isError, hlevel]
  cases hnormal : Buffer.normalize (bufferName path) raw with
  | error e =>
    obtain ⟨p, hp⟩ := Buffer.exists_problem_of_normalize _ hraw hnormal
    refine ⟨fun fatal ignore => { unread (settings.withFlags fatal ignore) release path raw with
      encodingError := some e }, ?_, ?_, rfl, rfl, fun _ => ⟨rfl, rfl⟩⟩
    · intro fatal ignore
      exact makes_of_refusal hselect hrelease hnormal hp
    · intro fatal ignore fatal' ignore'
      exact ⟨rfl, rfl, rfl, rfl, rfl, rfl, rfl⟩
  | ok text =>
    have hmaker : maker.Sound engine (read settings release path raw text).buffer.name text :=
      hsound text hnormal
    obtain ⟨a, ha⟩ := hmaker.exists_account rfl
    obtain ⟨tokens, htokens⟩ := ha.named.mapM_toToken
    refine ⟨fun fatal ignore =>
      (read (settings.withFlags fatal ignore) release path raw text).withAccount a tokens,
      ?_, ?_, ?_, a.tree_ignoring _, fun ignore => ⟨a.delivered_strict ignore,
        a.tree_strict ignore _⟩⟩
    · intro fatal ignore
      exact makes_of_account hselect hrelease hnormal ha htokens
    · intro fatal ignore fatal' ignore'
      exact ⟨rfl, rfl, rfl, rfl, rfl, rfl, rfl⟩
    · rw [hwarning]
      exact a.delivered_ignoring

/-- A script that reports one diagnostic of each level over a node and a comment. -/
def threeLevels : Replay where
  tokens := [⟨TokenKind.comment, "# a", ⟨1, 0, 1, 3⟩⟩]
  comments := [⟨"# a", ⟨1, 0, 1, 3⟩⟩]
  root := .node (.mk 0 "Module" {} [])
  diagnostics := [⟨.warning, "w", none, "syntax"⟩, ⟨.error, "e", none, "syntax"⟩,
    ⟨.fatal, "f", none, "syntax"⟩]

theorem build_under_flags_of_threeLevels :
    let registry : Registry Maker := ⟨[(⟨9, 9⟩, .replay 0 threeLevels)]⟩
    let engine := Engine.scripted ⟨[], none⟩ ⟨[], .ok none⟩
    let raw := RawSource.bytes [0x23, 0x20, 0x61]
    let wanted : Option Value := some (.release ⟨9, 9⟩)
    registry.select (wanted.getD (.string "3.12")) = .ok (.replay 0 threeLevels) ∧
      (∀ text, Maker.Sound engine "(string)" text (.replay 0 threeLevels)) ∧
      ∃ u : Bool → Bool → ParsedUnit,
        (∀ fatal ignore,
          (build (Settings.withFlags {} fatal ignore) registry engine wanted none raw).result =
            .ok (u fatal ignore)) ∧
        (∀ fatal ignore, (u fatal ignore).tokens = (u false false).tokens) ∧
        (u true true).diagnostics =
          ((u false true).diagnostics.head?.map (·.escalate)).toList := by
  intro registry engine raw wanted
  have hselect : registry.select (wanted.getD (.string "3.12")) = .ok (.replay 0 threeLevels) := rfl
  have hsound : ∀ text, Maker.Sound engine "(string)" text (.replay 0 threeLevels) := by
    intro text
    refine ⟨trivial, ?_⟩
    intro t ht
    rw [List.mem_singleton.mp ht]
    decide
  refine ⟨hselect, hsound, ?_⟩
  obtain ⟨u, hbuilt, hsame, -, -, hstrict⟩ :=
    build_under_flags {} registry engine wanted none raw hselect (by simp [raw])
      fun text _ => hsound text
  refine ⟨u, fun fatal ignore => (hbuilt fatal ignore).result_eq ⟨9, 9⟩ rfl (by decide +kernel), ?_, ?_⟩
  · exact fun fatal ignore => (hsame fatal ignore false false).tokens
  · exact (hstrict true).1

end ParsedUnit

end SourceUnit
