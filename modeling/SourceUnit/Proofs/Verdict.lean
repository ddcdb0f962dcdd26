import SourceUnit.Proofs.Construction
import SourceUnit.Proofs.SourceText

/-! The verdict on a unit. Whether a unit is valid is read off its diagnostics and whether it is
blank is read off its tree, so the two could disagree about a broken source. They do not: each of
them is determined by what the lexer and the parser said and by the flags, and a unit that is both
valid and blank had no statements. -/
namespace SourceUnit

namespace Account

variable (a : Account) (p : Policy)

/-- Escalation stops the parse: there is something to report that is not dropped. -/
def Stopped : Prop := p.allFatal = true ∧ p.kept a.reports ≠ []

variable {a p}

theorem tell_result_of_stopped (h : a.Stopped p) (sink : Option Sink) :
    ∃ f, (a.tell p sink).result = .error f := by
  obtain ⟨d, ds, hkept⟩ := List.exists_cons_of_ne_nil h.2
  rw [tell_of_strict_cons a p sink h.1 hkept]
  exact ⟨_, rfl⟩

theorem tell_result_of_not_stopped (hfatal : ∀ d ∈ a.reports, d.level ≠ .fatal)
    (h : ¬a.Stopped p) (sink : Option Sink) : (a.tell p sink).result = a.finish := by
  cases hpolicy : p.allFatal with
  | false =>
    rw [tell_of_no_fatal a p sink hpolicy fun d hd => hfatal d (p.mem_of_mem_kept hd)]
  | true =>
    have hkept : p.kept a.reports = [] := by
      simpa [Stopped, hpolicy] using h
    rw [tell_of_strict_nil a p sink hpolicy hkept]

theorem any_isError_delivered (hfatal : ∀ d ∈ a.reports, d.level ≠ .fatal) :
    (a.delivered p).any (·.isError) = true ↔
      a.Stopped p ∨ ∃ d ∈ p.kept a.reports, d.isError = true := by
  unfold delivered Stopped
  cases p.allFatal with
  | false =>
    have hkept : ∀ d ∈ p.kept a.reports, d.level ≠ .fatal := fun d hd =>
      hfatal d (p.mem_of_mem_kept hd)
    simp [throughFatal_eq_self hkept]
  | true =>
    cases p.kept a.reports with
    | nil => simp
    | cons d ds => simp

theorem isSome_tree_iff (hfatal : ∀ d ∈ a.reports, d.level ≠ .fatal) {buffer : Buffer}
    (hassigned : buffer.isAssigned = true) :
    (a.tree p buffer).isSome = true ↔ ¬a.Stopped p ∧ ∃ n, a.ending = .ok (.node n) := by
  rw [tree, Root.isSome_tree_iff hassigned, Outcome.found]
  by_cases hstopped : a.Stopped p
  · obtain ⟨f, hf⟩ := tell_result_of_stopped hstopped (some {})
    simp [hf, hstopped]
  · rw [tell_result_of_not_stopped hfatal hstopped]
    unfold finish fail
    cases a.ending with
    | error f => simp
    | ok root =>
      cases root with
      | absent => simp
      | node n => simp [hstopped]
      | foreign typeName => simp

end Account

namespace Backend

/-- The parser had doubts, and they are not dropped. -/
def Doubted (p : Policy) (parsing : Parsing) : Prop :=
  p.ignoreWarnings = false ∧ parsing.warnings ≠ []

variable {lexing : Lexing} (parsing : Parsing) (buffer : Buffer) {p : Policy}

theorem kept_reports (h : ∀ f ∈ lexing.fault, f.Placed) :
    p.kept (reports buffer lexing parsing) =
      (if p.ignoreWarnings then [] else parsing.warnings.map (·.diagnostic buffer)) ++
        faults lexing parsing := by
  have hfaults : (faults lexing parsing).filter (·.isError) = faults lexing parsing := by
    rw [List.filter_eq_self]
    intro d hd
    simp [level_of_mem_faults parsing h d hd]
  have hwarnings : (parsing.warnings.map (·.diagnostic buffer)).filter (·.isError) = [] := by
    simp [Warning.diagnostic]
  rw [reports_eq, Policy.kept]
  split
  · rw [List.filter_append, hfaults, hwarnings]
  · rfl

theorem stopped_account_iff (h : ∀ f ∈ lexing.fault, f.Placed) :
    (account buffer lexing parsing).Stopped p ↔
      p.allFatal = true ∧ (faults lexing parsing ≠ [] ∨ Doubted p parsing) := by
  have hreports : (account buffer lexing parsing).reports = reports buffer lexing parsing := rfl
  unfold Account.Stopped Doubted
  rw [hreports, kept_reports parsing buffer h]
  cases p.ignoreWarnings with
  | true => simp
  | false => by_cases hwarnings : parsing.warnings = [] <;> simp [hwarnings]

theorem exists_kept_error_iff (h : ∀ f ∈ lexing.fault, f.Placed) :
    (∃ d ∈ p.kept (reports buffer lexing parsing), d.isError = true) ↔
      faults lexing parsing ≠ [] := by
  rw [kept_reports parsing buffer h]
  constructor
  · rintro ⟨d, hd, herror⟩ hnil
    rw [hnil, List.append_nil] at hd
    split at hd
    · cases hd
    · obtain ⟨w, -, rfl⟩ := List.mem_map.mp hd
      cases herror
  · intro hne
    obtain ⟨d, ds, hfaults⟩ := List.exists_cons_of_ne_nil hne
    have hd : d ∈ faults lexing parsing := by simp [hfaults]
    refine ⟨d, List.mem_append_right _ hd, ?_⟩
    simp [level_of_mem_faults parsing h d hd]

theorem ending_eq_node_iff :
    (∃ n, (account buffer lexing parsing).ending = .ok (.node n)) ↔
      ∃ m, parsing.result = .ok (some m) ∧ m.isEmpty = some false := by
  unfold account
  cases parsing.result with
  | error fault => simp
  | ok m =>
    rcases m with _ | ⟨root, _ | _ | _⟩
    · simp [moduleRoot]
    · simp [moduleRoot]
    · simp [moduleRoot]
    · simp [moduleRoot]

/-- Nothing above a warning is delivered exactly if there is no fault and no warning is escalated. -/
theorem delivered_account_clean_iff (h : ∀ f ∈ lexing.fault, f.Placed) :
    ((account buffer lexing parsing).delivered p).any (·.isError) = false ↔
      (∃ m, parsing.result = .ok m) ∧ lexing.fault = none ∧
        ¬(p.allFatal = true ∧ Doubted p parsing) := by
  have hfatal := reports_not_fatal buffer parsing h
  have hany := Account.any_isError_delivered (a := account buffer lexing parsing) (p := p) hfatal
  have herror : (∃ d ∈ p.kept (account buffer lexing parsing).reports, d.isError = true) ↔
      faults lexing parsing ≠ [] := exists_kept_error_iff parsing buffer h
  have hclean := faults_eq_nil_iff parsing h
  rw [← Bool.not_eq_true, hany, stopped_account_iff parsing buffer h, herror, ← and_assoc, ← hclean]
  by_cases hfaults : faults lexing parsing = [] <;> simp [hfaults]

/-- A tree is left exactly if the parser made statements of the text and nothing is escalated. -/
theorem tree_account_isSome_iff {buffer : Buffer} (hassigned : buffer.isAssigned = true)
    (h : ∀ f ∈ lexing.fault, f.Placed) :
    ((account buffer lexing parsing).tree p buffer).isSome = true ↔
      (∃ m, parsing.result = .ok (some m) ∧ m.isEmpty = some false) ∧
        ¬(p.allFatal = true ∧ (lexing.fault ≠ none ∨ Doubted p parsing)) := by
  rw [Account.isSome_tree_iff (reports_not_fatal buffer parsing h) hassigned, ending_eq_node_iff,
    stopped_account_iff parsing buffer h, and_comm]
  refine and_congr_right fun hstatements => ?_
  obtain ⟨m, hm, -⟩ := hstatements
  have hfaults : faults lexing parsing ≠ [] ↔ lexing.fault ≠ none := by
    simp [faults_eq_nil_iff parsing h, hm]
  rw [hfaults]

/-- A clean account is told without a failure. -/
theorem tell_account_of_clean (h : ∀ f ∈ lexing.fault, f.Placed) {m : Option Module}
    (hm : parsing.result = .ok m) (hlex : lexing.fault = none)
    (hdoubt : ¬(p.allFatal = true ∧ Doubted p parsing)) (sink : Option Sink) :
    ∃ found, ((account buffer lexing parsing).tell p sink).result = .ok found := by
  have hfaults : faults lexing parsing = [] := (faults_eq_nil_iff parsing h).mpr ⟨⟨m, hm⟩, hlex⟩
  have hstopped : ¬(account buffer lexing parsing).Stopped p := by
    rw [stopped_account_iff parsing buffer h]
    simpa [hfaults] using hdoubt
  rw [Account.tell_result_of_not_stopped (reports_not_fatal buffer parsing h) hstopped,
    account_finish_of_module hm]
  exact ⟨_, rfl⟩

end Backend

/-- A failure was absorbed on the way. -/
def Construction.Absorbed (c : Construction ParsedUnit) : Prop :=
  ∃ e ∈ c.events, e.name = "syntax_failure_absorbed"

namespace ParsedUnit

/-- A run that was not stopped leaves nothing to absorb, and the last event is another one. -/
theorem not_absorbed_announce {u : ParsedUnit} {o : Outcome} {found : Findings}
    (h : o.result = .ok found) (built : List Maker) (result : Except Error ParsedUnit) :
    ¬(Construction.mk (u.absorbed o) built result >>= announce).Absorbed := by
  rintro ⟨e, he, hname⟩
  rcases Construction.mem_events_announce he with habsorbed | hprocessed
  · have hmem : e ∈ u.absorbed o := habsorbed
    rw [absorbed, h] at hmem
    cases hmem
  · exact absurd (hname.symm.trans hprocessed) (by decide)

theorem Named.of_mapM_toToken {raw : List RawToken} {tokens : List Token}
    (h : raw.mapM RawToken.toToken = .ok tokens) : Named raw := by
  have hnamed : List.Forall₂ (fun t token => t.exactName?.isSome ∧ t.Shows token) raw tokens :=
    (RawToken.forall₂_shows h).imp fun t token hshows => ⟨by rw [hshows.kind]; rfl, hshows⟩
  exact ((List.forall₂_and_left _ _).mp hnamed).1

section Units

variable {lexing : Lexing} (parsing : Parsing) (u : ParsedUnit) (tokens : List Token)

theorem validSyntax_withAccount_iff (h : ∀ f ∈ lexing.fault, f.Placed)
    (hencoding : u.encodingError = none) :
    (u.withAccount (Backend.account u.buffer lexing parsing) tokens).validSyntax = true ↔
      (∃ m, parsing.result = .ok m) ∧ lexing.fault = none ∧
        ¬(u.policy.allFatal = true ∧ Backend.Doubted u.policy parsing) := by
  rw [← Backend.delivered_account_clean_iff parsing u.buffer h]
  simp [validSyntax, withAccount, hencoding]

theorem isSome_tree_withAccount_iff (hassigned : u.buffer.isAssigned = true)
    (h : ∀ f ∈ lexing.fault, f.Placed) :
    (u.withAccount (Backend.account u.buffer lexing parsing) tokens).tree.isSome = true ↔
      (∃ m, parsing.result = .ok (some m) ∧ m.isEmpty = some false) ∧
        ¬(u.policy.allFatal = true ∧ (lexing.fault ≠ none ∨ Backend.Doubted u.policy parsing)) :=
  Backend.tree_account_isSome_iff parsing hassigned h

/-- Of the conditions for a tree, a valid unit without one can only have missed the statements. -/
theorem no_statements_of_blank (hassigned : u.buffer.isAssigned = true)
    (h : ∀ f ∈ lexing.fault, f.Placed)
    (hbodied : ∀ m, parsing.result = .ok (some m) → m.isEmpty.isSome)
    (hencoding : u.encodingError = none)
    (hblank : (u.withAccount (Backend.account u.buffer lexing parsing) tokens).blank = true)
    (hvalid : (u.withAccount (Backend.account u.buffer lexing parsing) tokens).validSyntax = true) :
    parsing.result = .ok none ∨ ∃ m, parsing.result = .ok (some m) ∧ m.isEmpty = some true := by
  obtain ⟨⟨m, hm⟩, hlex, hdoubt⟩ := (validSyntax_withAccount_iff parsing u tokens h hencoding).mp hvalid
  have hnone : ¬∃ m, parsing.result = .ok (some m) ∧ m.isEmpty = some false := by
    intro hstatements
    have hsome := (isSome_tree_withAccount_iff parsing u tokens hassigned h).mpr
      ⟨hstatements, by simpa [hlex] using hdoubt⟩
    rw [Option.isNone_iff_eq_none.mp hblank] at hsome
    cases hsome
  cases m with
  | none => exact .inl hm
  | some m =>
    obtain ⟨empty, hempty⟩ := Option.isSome_iff_exists.mp (hbodied m hm)
    cases empty with
    | true => exact .inr ⟨m, hm, hempty⟩
    | false => exact absurd ⟨m, hm, hempty⟩ hnone

end Units

section Build

variable {settings : Settings} {registry : Registry Maker} {engine : Engine}
  {wanted : Option Value} {path : Option String} {raw : RawSource} {grammar release : Release}
  {lexing : Lexing} {parsing : Parsing}

/-- How a unit comes out of a text and what is said about it. -/
theorem build_of_grammar {s : List Char}
    (hselect : registry.select (wanted.getD (.string settings.release)) = .ok (.grammar grammar))
    (hrelease : Release.parse (wanted.getD (.string settings.release)) = .ok release)
    (hspells : raw.Spells s)
    (hanswers : engine.Answers (bufferName path) grammar (Buffer.dropMark s) lexing parsing) :
    let u := read settings release path raw (Buffer.dropMark s)
    let a := Backend.account u.buffer lexing parsing
    build settings registry engine wanted path raw =
      Construction.mk (u.absorbed (a.tell u.policy (some {}))) [.grammar grammar]
        (((Backend.shown lexing).mapM RawToken.toToken).map (u.withAccount a)) >>= announce := by
  intro u a
  have htold : (Maker.grammar grammar).run u.policy engine (some {}) u.buffer =
      .ok (a.tell u.policy (some {})) :=
    Backend.run_eq_tell (b := ⟨grammar, u.policy⟩) (some {}) rfl hanswers
  rw [build_of_text hselect hrelease (Buffer.normalize_of_spells _ hspells),
    parse_eq rfl htold fun root => Backend.native_of_ending]
  rfl

end Build

/-- A unit is valid exactly if its source is a text, neither the parser nor the lexer found a fault,
and no warning was escalated. It has a tree exactly if its source is a text that the parser made
statements of, and nothing was escalated. So a unit that is valid and blank had no statements; no
failure was absorbed on the way. Units are built of all sources whose tokens have names, for all
releases that can be written out. -/
theorem build_verdict (settings : Settings) (registry : Registry Maker) (engine : Engine)
    (wanted : Option Value) (path : Option String) (raw : RawSource) {grammar : Release}
    {lexing : Lexing} {parsing : Parsing}
    (hselect : registry.select (wanted.getD (.string settings.release)) = .ok (.grammar grammar))
    (hraw : raw ≠ .other)
    (hanswers : ∀ s, raw.Spells s →
      engine.Answers (bufferName path) grammar (Buffer.dropMark s) lexing parsing) :
    let construction := build settings registry engine wanted path raw
    let fatal := settings.allErrorsFatal = true
    let doubted := settings.ignoreWarnings = false ∧ parsing.warnings ≠ []
    ((∃ u, construction.result = .ok u) ↔
      ((¬∃ s, raw.Spells s) ∨ Named (lexing.tokens.filter Backend.isShown)) ∧
        ∃ release, Release.parse (wanted.getD (.string settings.release)) = .ok release ∧
          release.Writable) ∧
    ∀ u, construction.result = .ok u →
      (u.validSyntax = true ↔
        (∃ s, raw.Spells s) ∧ (∃ m, parsing.result = .ok m) ∧ lexing.fault = none ∧
          ¬(fatal ∧ doubted)) ∧
      (u.tree.isSome = true ↔
        (∃ s, raw.Spells s) ∧ (∃ m, parsing.result = .ok (some m) ∧ m.isEmpty = some false) ∧
          ¬(fatal ∧ (lexing.fault ≠ none ∨ doubted))) ∧
      (u.blank = true → u.validSyntax = true →
        (parsing.result = .ok none ∨
          ∃ m, parsing.result = .ok (some m) ∧ m.isEmpty = some true) ∧
        ¬construction.Absorbed) := by
  intro construction fatal doubted
  obtain ⟨release, hrelease⟩ := exists_release_of_select hselect
  by_cases hspelled : ∃ s, raw.Spells s
  · have ⟨s, hs⟩ := hspelled
    have hplaced := (hanswers s hs).placed
    have hbuild : construction = _ := build_of_grammar hselect hrelease hs (hanswers s hs)
    cases htokens : (Backend.shown lexing).mapM RawToken.toToken with
    | error e =>
      have hnamed : ¬Named (lexing.tokens.filter Backend.isShown) := by
        intro hnamed
        obtain ⟨tokens, hok⟩ := hnamed.mapM_toToken
        cases htokens.symm.trans hok
      rw [htokens] at hbuild
      have hnone (u : ParsedUnit) : construction.result ≠ .ok u := by
        intro hu
        rw [hbuild] at hu
        cases Construction.result_of_announce hu
      refine ⟨⟨fun ⟨u, hu⟩ => absurd hu (hnone u), ?_⟩, fun u hu => absurd hu (hnone u)⟩
      rintro ⟨hunread | hall, -⟩
      · exact absurd hspelled hunread
      · exact absurd hall hnamed
    | ok tokens =>
      have hnamed : Named (lexing.tokens.filter Backend.isShown) := Named.of_mapM_toToken htokens
      rw [htokens] at hbuild
      rw [hbuild]
      let u := read settings release path raw (Buffer.dropMark s)
      refine ⟨?_, fun v hv => ?_⟩
      · rw [(Construction.makes_announce rfl hrelease).exists_result_iff, and_iff_right (.inr hnamed)]
      cases Construction.result_of_announce hv
      have hvalid := validSyntax_withAccount_iff parsing u tokens hplaced rfl
      have htree := isSome_tree_withAccount_iff parsing u tokens rfl hplaced
      refine ⟨?_, ?_, ?_⟩
      · rw [hvalid, and_iff_right hspelled]
        rfl
      · rw [htree, and_iff_right hspelled]
        rfl
      · intro hblank hclean
        have hbodied := (hanswers s hs).bodied
        refine ⟨no_statements_of_blank parsing u tokens rfl hplaced hbodied rfl hblank hclean, ?_⟩
        obtain ⟨⟨m, hm⟩, hlex, hdoubt⟩ := hvalid.mp hclean
        obtain ⟨found, hfound⟩ :=
          Backend.tell_account_of_clean parsing u.buffer hplaced hm hlex hdoubt (some {})
        exact not_absorbed_announce hfound _ _
  · obtain ⟨e, p, he, hp⟩ := Buffer.exists_problem_of_not_spells (bufferName path) hraw hspelled
    have hmakes : construction.Makes _ _ := makes_of_refusal hselect hrelease he hp
    refine ⟨by rw [hmakes.exists_result_iff, and_iff_right (.inl hspelled)], fun u hu => ?_⟩
    obtain rfl := eq_of_build hselect hrelease he hu
    refine ⟨?_, ?_, ?_⟩
    · simp [validSyntax, hspelled]
    · simp [unread, hspelled]
    · intro _ hvalid
      simp [validSyntax] at hvalid

/-- A parser that had a doubt about a text without statements, after a lexer that found a comment. -/
def remarkLexing : Lexing := { Backend.brokenLexing with fault := none }

def remarkParsing : Parsing :=
  { Backend.doubtfulParsing with result := .ok (some ⟨.mk 0 "Module" {} [], some true⟩) }

theorem remark_answers (name : String) (source : List Char) :
    (Engine.scripted remarkLexing remarkParsing).Answers name ⟨3, 12⟩ source remarkLexing
      remarkParsing := by
  refine ⟨rfl, rfl, ?_, ?_⟩
  · rintro f ⟨⟩
  · rintro m ⟨⟩
    rfl

theorem remark_named : Named remarkLexing.tokens := by
  unfold Named
  decide

/-- With warnings dropped, a lone comment makes a unit that is valid and blank. -/
theorem build_verdict_of_remark :
    let registry := Registry.standard Maker.grammar
    let engine := Engine.scripted remarkLexing remarkParsing
    let settings : Settings := { allErrorsFatal := true, ignoreWarnings := true }
    let raw := RawSource.bytes (Utf8.encode ['#', ' ', 'a'])
    let construction := build settings registry engine (some (.release ⟨3, 12⟩)) none raw
    registry.select (.release ⟨3, 12⟩) = .ok (.grammar ⟨3, 12⟩) ∧
      ∃ u, construction.result = .ok u ∧ u.validSyntax = true ∧ u.blank = true ∧
        ¬construction.Absorbed := by
  intro registry engine settings raw construction
  have hselect : registry.select (.release ⟨3, 12⟩) = .ok (.grammar ⟨3, 12⟩) := rfl
  have hspelled : ∃ s, raw.Spells s := ⟨_, rfl⟩
  obtain ⟨hexists, hverdict⟩ := build_verdict settings registry engine (some (.release ⟨3, 12⟩))
    none raw hselect (by simp [raw]) fun s _ => remark_answers _ (Buffer.dropMark s)
  have hnamed : Named (remarkLexing.tokens.filter Backend.isShown) := fun t ht =>
    remark_named t (List.mem_filter.mp ht).1
  have hwritable : (⟨3, 12⟩ : Release).Writable := (Release.isWritable_iff _).mp (by decide +kernel)
  obtain ⟨u, hu⟩ := hexists.mpr ⟨.inr hnamed, ⟨3, 12⟩, rfl, hwritable⟩
  obtain ⟨hvalid, htree, hblank⟩ := hverdict u hu
  have hclean : u.validSyntax = true :=
    hvalid.mpr ⟨hspelled, ⟨_, rfl⟩, rfl, by simp [settings]⟩
  have hempty : u.blank = true := by
    have hno : ¬u.tree.isSome = true := by
      rw [htree]
      rintro ⟨-, ⟨m, hm, hstatements⟩, -⟩
      cases hm
      cases hstatements
    simpa [blank] using hno
  exact ⟨hselect, u, hu, hclean, hempty, (hblank hempty hclean).2⟩

end ParsedUnit

end SourceUnit
