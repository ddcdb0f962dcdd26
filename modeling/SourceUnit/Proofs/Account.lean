import SourceUnit.Proofs.Policy
import SourceUnit.Replay

/-! The account a backend gives of a text: what it has to report, how it ends if no report stops
it, and what it found. An account mentions no policy and no sink. Both kinds of backend do nothing
but tell their account under a policy, so that every law about diagnostics and partial results is
proved once, about `Account.tell`. -/
namespace SourceUnit

structure Account where
  reports : List Diagnostic
  /-- How the parse ends if no report stops it. -/
  ending : Except Failure Root
  comments : List Comment
  tokens : List RawToken

namespace Account

def fail (a : Account) (f : Failure) : Except Failure Findings :=
  .error { f with comments := a.comments, tokens := a.tokens }

/-- The result of a parse that no report stops. -/
def finish (a : Account) : Except Failure Findings :=
  match a.ending with
  | .error f => a.fail f
  | .ok root => .ok ⟨root, a.comments, a.tokens⟩

/-- Reports everything under a policy, and ends. -/
def tell (a : Account) (p : Policy) (sink : Option Sink) : Outcome :=
  match p.reportAll sink a.reports with
  | (sink, some f) => ⟨sink, a.fail f⟩
  | (sink, none) => ⟨sink, a.finish⟩

variable (a : Account) (p : Policy) (sink : Option Sink)

/-- A policy that does not escalate delivers what it keeps, up to a fatal diagnostic. -/
theorem tell_of_lenient (h : p.allFatal = false) :
    a.tell p sink =
      ⟨sink.map (·.pushAll (throughFatal (p.kept a.reports))),
        match firstFatal? (p.kept a.reports) with
        | some d => a.fail d.failure
        | none => a.finish⟩ := by
  have hseen : a.reports.filterMap p.filtered = p.kept a.reports := by
    rw [Policy.filterMap_filtered, h]
    rfl
  unfold tell
  rw [Policy.reportAll_eq, hseen]
  cases firstFatal? (p.kept a.reports) with
  | none => rfl
  | some d => rfl

theorem tell_of_no_fatal (h : p.allFatal = false)
    (hfatal : ∀ d ∈ p.kept a.reports, d.level ≠ .fatal) :
    a.tell p sink = ⟨sink.map (·.pushAll (p.kept a.reports)), a.finish⟩ := by
  rw [tell_of_lenient a p sink h, throughFatal_eq_self hfatal, firstFatal?_eq_none hfatal]

/-- A policy that escalates delivers the first diagnostic it keeps, and stops there. -/
theorem tell_of_strict (h : p.allFatal = true) :
    a.tell p sink =
      ⟨sink.map (·.pushAll ((p.kept a.reports).head?.map (·.escalate)).toList),
        match (p.kept a.reports).head? with
        | some d => a.fail d.escalate.failure
        | none => a.finish⟩ := by
  have hseen : a.reports.filterMap p.filtered = (p.kept a.reports).map (·.escalate) := by
    rw [Policy.filterMap_filtered, h]
    rfl
  unfold tell
  rw [Policy.reportAll_eq, hseen, throughFatal_escalate, firstFatal?_escalate]
  cases (p.kept a.reports).head? with
  | none => rfl
  | some d => rfl

theorem tell_of_strict_nil (h : p.allFatal = true) (hkept : p.kept a.reports = []) :
    a.tell p sink = ⟨sink, a.finish⟩ := by
  rw [tell_of_strict a p sink h, hkept]
  simp

theorem tell_of_strict_cons (h : p.allFatal = true) {d : Diagnostic} {ds : List Diagnostic}
    (hkept : p.kept a.reports = d :: ds) :
    a.tell p sink = ⟨sink.map (·.pushAll [d.escalate]), a.fail d.escalate.failure⟩ := by
  rw [tell_of_strict a p sink h, hkept]
  rfl

end Account

theorem Policy.reportAll_append (p : Policy) (sink : Option Sink) (ds es : List Diagnostic) :
    p.reportAll sink (ds ++ es) =
      match p.reportAll sink ds with
      | (sink, some f) => (sink, some f)
      | (sink, none) => p.reportAll sink es := by
  induction ds generalizing sink with
  | nil => rfl
  | cons d ds ih =>
    simp only [List.cons_append, Policy.reportAll]
    rcases p.report sink d with ⟨sink, _ | f⟩
    · exact ih sink
    · rfl

/-! ### A backend that replays -/

def Replay.account (s : Replay) : Account where
  reports := s.diagnostics
  ending := if s.fails then .error { message := "scripted failure" } else .ok s.root
  comments := s.comments
  tokens := s.tokens

theorem Replay.run_eq_tell (s : Replay) (p : Policy) (sink : Option Sink) :
    s.run p sink = s.account.tell p sink := by
  unfold Replay.run Account.tell Account.finish Replay.account
  rcases p.reportAll sink s.diagnostics with ⟨sink, _ | f⟩
  · cases s.fails with
    | false => rfl
    | true => rfl
  · rfl

/-! ### A backend that parses -/

/-- A fault as a lexer raises it: its own kind carries a message and a place. -/
inductive LexFault.Placed : LexFault → Prop where
  | token (message : Value) (line col : Int) : Placed (.token [message, .tuple [.int line, .int col]])
  | syntactic (fault : SyntaxFault) : Placed (.syntactic fault)

def LexFault.told (f : LexFault) : List Diagnostic := f.diagnostic.toOption.toList

theorem LexFault.Placed.diagnostic_eq {f : LexFault} (h : f.Placed) :
    ∃ d, f.diagnostic = .ok d ∧ d.level = .error := by
  cases h with
  | token message line col => exact ⟨_, rfl, rfl⟩
  | syntactic fault => exact ⟨_, rfl, rfl⟩

theorem LexFault.Placed.told_eq {f : LexFault} (h : f.Placed) :
    ∃ d, f.told = [d] ∧ f.diagnostic = .ok d ∧ d.level = .error := by
  obtain ⟨d, hd, hlevel⟩ := h.diagnostic_eq
  refine ⟨d, ?_, hd, hlevel⟩
  rw [LexFault.told, hd]
  rfl

/-- What a lexer and a parser answer about a text, as far as a backend relies on it: the parser
does not break down, faults of the lexer have a place, and modules have a list of statements. -/
structure Engine.Answers (engine : Engine) (name : String) (release : Release)
    (source : List Char) (lexing : Lexing) (parsing : Parsing) : Prop where
  lexed : engine.lex source = lexing
  parsed : engine.parse name release source = .ok parsing
  placed : ∀ f ∈ lexing.fault, f.Placed
  bodied : ∀ m, parsing.result = .ok (some m) → m.isEmpty.isSome

namespace Backend

/-- What there is to report: the parser's doubts in order, then its fault, or else the lexer's. -/
def reports (buffer : Buffer) (lexing : Lexing) (parsing : Parsing) : List Diagnostic :=
  parsing.warnings.map (·.diagnostic buffer) ++
    match parsing.result with
    | .error fault => [fault.diagnostic]
    | .ok _ => (lexing.fault.map (·.told)).getD []

/-- The root of a module that has statements; there is none otherwise. -/
def moduleRoot : Option Module → Root
  | some ⟨root, some false⟩ => .node root
  | _ => .absent

def shown (lexing : Lexing) : List RawToken := lexing.tokens.filter isShown

def account (buffer : Buffer) (lexing : Lexing) (parsing : Parsing) : Account where
  reports := reports buffer lexing parsing
  ending := match parsing.result with
    | .error fault => .error fault.diagnostic.failure
    | .ok m => .ok (moduleRoot m)
  comments := (shown lexing).filterMap (·.comment?)
  tokens := shown lexing

theorem rootOf_eq {m : Option Module} (h : ∀ n, m = some n → n.isEmpty.isSome) :
    rootOf m = .ok (moduleRoot m) := by
  cases m with
  | none => rfl
  | some n =>
    rcases n with ⟨root, _ | _ | _⟩
    · exact absurd (h _ rfl) (by simp)
    · rfl
    · rfl

theorem judge_of_fault (b : Backend) (buffer : Buffer) (sink : Option Sink) (p : Parsing)
    {fault : ParseFault} (h : p.result = .error fault) :
    b.judge buffer sink p =
      match b.policy.reportAll sink (p.warnings.map (·.diagnostic buffer) ++ [fault.diagnostic]) with
      | (sink, some f) => .ok (sink, .error f)
      | (sink, none) => .ok (sink, .error fault.diagnostic.failure) := by
  unfold judge
  rw [Policy.reportAll_append, h]
  generalize b.policy.reportAll sink (p.warnings.map _) = warned
  rcases warned with ⟨sink, _ | f⟩
  · simp only [Policy.report_eq_reportAll]
    generalize b.policy.reportAll sink [fault.diagnostic] = faulted
    rcases faulted with ⟨sink, _ | f⟩
    · rfl
    · rfl
  · rfl

theorem judge_of_module (b : Backend) (buffer : Buffer) (sink : Option Sink) (p : Parsing)
    {m : Option Module} (h : p.result = .ok m) (hbody : ∀ n, m = some n → n.isEmpty.isSome) :
    b.judge buffer sink p =
      match b.policy.reportAll sink (p.warnings.map (·.diagnostic buffer)) with
      | (sink, some f) => .ok (sink, .error f)
      | (sink, none) => .ok (sink, .ok (moduleRoot m)) := by
  unfold judge
  rw [h]
  dsimp only
  rewrite [rootOf_eq hbody]
  generalize b.policy.reportAll sink (p.warnings.map _) = warned
  rcases warned with ⟨sink, _ | f⟩
  · rfl
  · rfl

theorem judgeLexing_eq (b : Backend) (sink : Option Sink) {fault : Option LexFault}
    (h : ∀ f ∈ fault, f.Placed) :
    b.judgeLexing sink fault = .ok (b.policy.reportAll sink ((fault.map (·.told)).getD [])) := by
  cases fault with
  | none => rfl
  | some f =>
    obtain ⟨d, htold, hd, -⟩ := (h f rfl).told_eq
    simp only [judgeLexing, hd, Option.map_some, Option.getD_some, htold,
      Policy.report_eq_reportAll]

variable {b : Backend} {engine : Engine} {buffer : Buffer} {source : List Char}
  {lexing : Lexing} {parsing : Parsing}

theorem run_of_fault (sink : Option Sink) {fault : ParseFault} (hsource : buffer.source = .ok source)
    (hparse : engine.parse buffer.name b.release source = .ok parsing)
    (hresult : parsing.result = .error fault) :
    b.run engine sink buffer =
      .ok ((account buffer (engine.lex source) parsing).tell b.policy sink) := by
  unfold run Account.tell account reports
  simp only [hsource, hparse, bind, Except.bind]
  rw [judge_of_fault b buffer sink parsing hresult, hresult]
  dsimp only
  generalize b.policy.reportAll sink _ = told
  rcases told with ⟨sink, _ | f⟩
  · rfl
  · rfl

/-- A backend tells the account of the text, and nothing else. -/
theorem run_eq_tell (sink : Option Sink) (hsource : buffer.source = .ok source)
    (h : engine.Answers buffer.name b.release source lexing parsing) :
    b.run engine sink buffer = .ok ((account buffer lexing parsing).tell b.policy sink) := by
  obtain ⟨rfl, hparse, hplaced, hbodied⟩ := h
  cases hresult : parsing.result with
  | error fault => exact run_of_fault sink hsource hparse hresult
  | ok m =>
    unfold run Account.tell account reports
    simp only [hsource, hparse, bind, Except.bind]
    rw [judge_of_module b buffer sink parsing hresult fun n hn => hbodied n (hn ▸ hresult),
      hresult, Policy.reportAll_append]
    generalize b.policy.reportAll sink (parsing.warnings.map _) = warned
    rcases warned with ⟨sink, _ | f⟩
    · dsimp only
      rw [judgeLexing_eq b sink hplaced]
      dsimp only
      generalize b.policy.reportAll sink _ = told
      rcases told with ⟨sink, _ | f⟩
      · rfl
      · rfl
    · rfl

theorem eq_moduleRoot {m : Option Module} {root : Root} (h : rootOf m = .ok root) :
    root = moduleRoot m := by
  rcases m with _ | ⟨n, _ | _ | _⟩
  · cases h
    rfl
  · cases h
  · cases h
    rfl
  · cases h
    rfl

theorem judgeLexing_told {sink : Option Sink} {fault : Option LexFault}
    {told : Option Sink × Option Failure} (h : b.judgeLexing sink fault = .ok told) :
    told = b.policy.reportAll sink ((fault.map (·.told)).getD []) := by
  cases fault with
  | none =>
    cases h
    rfl
  | some f =>
    cases hd : f.diagnostic with
    | error e =>
      simp [judgeLexing, hd] at h
    | ok d =>
      simp only [judgeLexing, hd, Policy.report_eq_reportAll] at h
      cases h
      simp [LexFault.told, hd]
      rfl

theorem tells_of_module {sink : Option Sink} {source : List Char} {outcome : Outcome}
    {m : Option Module} (hsource : buffer.source = .ok source)
    (hparse : engine.parse buffer.name b.release source = .ok parsing)
    (hresult : parsing.result = .ok m) (h : b.run engine sink buffer = .ok outcome) :
    outcome = (account buffer (engine.lex source) parsing).tell b.policy sink := by
  unfold run judge at h
  unfold Account.tell account reports
  simp only [hsource, hparse, hresult, bind, Except.bind] at h
  rw [hresult, Policy.reportAll_append]
  generalize b.policy.reportAll sink (parsing.warnings.map _) = warned at h ⊢
  rcases warned with ⟨sink, _ | f⟩
  · cases hroot : rootOf m with
    | error e => simp [hroot] at h
    | ok root =>
      obtain rfl := eq_moduleRoot hroot
      cases hlexing : b.judgeLexing sink (engine.lex source).fault with
      | error e => simp [hroot, hlexing] at h
      | ok told =>
        simp only [hroot, hlexing] at h
        dsimp only
        rw [← judgeLexing_told hlexing]
        rcases told with ⟨sink, _ | f⟩
        · cases h
          rfl
        · cases h
          rfl
  -- a warning stopped the run, so that the module and the lexer's fault were never looked at
  · cases h
    rfl

/-- Every run that comes to an end tells the account of the text, whatever the engine is like. -/
theorem tells_of_run {sink : Option Sink} {outcome : Outcome}
    (h : b.run engine sink buffer = .ok outcome) :
    ∃ source parsing, buffer.source = .ok source ∧
      engine.parse buffer.name b.release source = .ok parsing ∧
      outcome = (account buffer (engine.lex source) parsing).tell b.policy sink := by
  cases hsource : buffer.source with
  | error e => simp [run, hsource, bind, Except.bind] at h
  | ok source =>
    cases hparse : engine.parse buffer.name b.release source with
    | error e => simp [run, hsource, hparse, bind, Except.bind] at h
    | ok parsing =>
      refine ⟨source, parsing, rfl, hparse, ?_⟩
      cases hresult : parsing.result with
      | error fault =>
        rw [run_of_fault sink hsource hparse hresult] at h
        exact (Except.ok.inj h).symm
      | ok m => exact tells_of_module hsource hparse hresult h

/-- What is reported after the warnings: the parser's fault, or else the lexer's. -/
def faults (lexing : Lexing) (parsing : Parsing) : List Diagnostic :=
  match parsing.result with
  | .error fault => [fault.diagnostic]
  | .ok _ => (lexing.fault.map (·.told)).getD []

theorem reports_eq (buffer : Buffer) (lexing : Lexing) (parsing : Parsing) :
    reports buffer lexing parsing =
      parsing.warnings.map (·.diagnostic buffer) ++ faults lexing parsing := rfl

theorem level_of_mem_faults (parsing : Parsing) (h : ∀ f ∈ lexing.fault, f.Placed) :
    ∀ d ∈ faults lexing parsing, d.level = .error := by
  intro d hd
  unfold faults at hd
  cases hresult : parsing.result with
  | error fault =>
    rw [hresult, List.mem_singleton] at hd
    subst hd
    cases fault with
    | syntactic f => rfl
    | refused message => rfl
  | ok m =>
    rw [hresult] at hd
    cases hfault : lexing.fault with
    | none => simp [hfault] at hd
    | some f =>
      obtain ⟨e, htold, -, hlevel⟩ := (h f hfault).told_eq
      simp only [hfault, Option.map_some, Option.getD_some, htold, List.mem_singleton] at hd
      rw [hd, hlevel]

theorem faults_eq_nil_iff (parsing : Parsing) (h : ∀ f ∈ lexing.fault, f.Placed) :
    faults lexing parsing = [] ↔ (∃ m, parsing.result = .ok m) ∧ lexing.fault = none := by
  unfold faults
  cases hresult : parsing.result with
  | error fault => simp
  | ok m =>
    cases hfault : lexing.fault with
    | none => simp
    | some f =>
      obtain ⟨e, htold, -⟩ := (h f hfault).told_eq
      simp [htold]

/-- Nothing a backend reports is fatal before a policy has seen it. -/
theorem reports_not_fatal (buffer : Buffer) (parsing : Parsing) (h : ∀ f ∈ lexing.fault, f.Placed) :
    ∀ d ∈ reports buffer lexing parsing, d.level ≠ .fatal := by
  intro d hd
  rw [reports_eq] at hd
  rcases List.mem_append.mp hd with hwarned | hended
  · obtain ⟨w, -, rfl⟩ := List.mem_map.mp hwarned
    simp [Warning.diagnostic]
  · rw [level_of_mem_faults parsing h d hended]
    simp

/-- A fault of the parser is never dropped, and comes last. -/
theorem getLast?_kept_of_fault (p : Policy) (buffer : Buffer) (lexing : Lexing) {fault : ParseFault}
    (h : parsing.result = .error fault) :
    (p.kept (reports buffer lexing parsing)).getLast? = some fault.diagnostic := by
  have herror : fault.diagnostic.isError = true := by
    cases fault with
    | syntactic f => rfl
    | refused message => rfl
  unfold Policy.kept reports
  rw [h]
  split
  · simp [herror]
  · simp

theorem account_finish_of_fault {fault : ParseFault} (h : parsing.result = .error fault) :
    (account buffer lexing parsing).finish =
      (account buffer lexing parsing).fail fault.diagnostic.failure := by
  simp only [Account.finish, account, h]

theorem account_finish_of_module {m : Option Module} (h : parsing.result = .ok m) :
    (account buffer lexing parsing).finish =
      .ok ⟨moduleRoot m, (shown lexing).filterMap (·.comment?), shown lexing⟩ := by
  simp only [Account.finish, account, h]

/-- What a run delivers, when it fails, and what it hands over either way. Escalation delivers the
first diagnostic kept and nothing after it. A failure is about the last diagnostic delivered. The
shown tokens and their comments come out of every run. -/
theorem run_delivers_kept (sink : Option Sink) (hsource : buffer.source = .ok source)
    (h : engine.Answers buffer.name b.release source lexing parsing) :
    let kept := b.policy.kept (reports buffer lexing parsing)
    let delivered := if b.policy.allFatal then (kept.head?.map (·.escalate)).toList else kept
    let tokens := lexing.tokens.filter isShown
    let comments := tokens.filterMap (·.comment?)
    ∃ outcome, b.run engine sink buffer = .ok outcome ∧
      outcome.sink = sink.map (·.pushAll delivered) ∧
      ((∃ failure, outcome.result = .error failure) ↔
        (∃ fault, parsing.result = .error fault) ∨ (b.policy.allFatal = true ∧ kept ≠ [])) ∧
      (∀ failure, outcome.result = .error failure → ∃ d, delivered.getLast? = some d ∧
        failure = ⟨d.message, some d, comments, tokens⟩) ∧
      (∀ found, outcome.result = .ok found → ∃ m, parsing.result = .ok m ∧
        found = ⟨moduleRoot m, comments, tokens⟩) := by
  intro kept delivered tokens comments
  rw [run_eq_tell sink hsource h]
  refine ⟨_, rfl, ?_⟩
  cases hpolicy : b.policy.allFatal with
  | false =>
    have hdelivered : delivered = kept := by simp [delivered, hpolicy]
    have hfatal : ∀ d ∈ kept, d.level ≠ .fatal := fun d hd =>
      reports_not_fatal buffer parsing h.placed d (b.policy.mem_of_mem_kept hd)
    rw [Account.tell_of_no_fatal _ _ _ hpolicy hfatal, hdelivered]
    refine ⟨rfl, ?_⟩
    cases hresult : parsing.result with
    | error fault =>
      rw [account_finish_of_fault hresult]
      refine ⟨⟨fun _ => .inl ⟨fault, rfl⟩, fun _ => ⟨_, rfl⟩⟩, ?_, fun _ hf => by cases hf⟩
      intro failure hf
      cases hf
      exact ⟨fault.diagnostic, getLast?_kept_of_fault b.policy buffer lexing hresult, rfl⟩
    | ok m =>
      rw [account_finish_of_module hresult]
      refine ⟨by simp, fun _ hf => (by cases hf), ?_⟩
      intro found hf
      cases hf
      exact ⟨m, rfl, rfl⟩
  | true =>
    have hdelivered : delivered = (kept.head?.map (·.escalate)).toList := by
      simp [delivered, hpolicy]
    cases hkept : kept with
    | nil =>
      -- a fault of the parser would have been kept
      have hok : ∃ m, parsing.result = .ok m := by
        cases hresult : parsing.result with
        | error fault =>
          have hlast := getLast?_kept_of_fault b.policy buffer lexing hresult
          change kept.getLast? = _ at hlast
          simp [hkept] at hlast
        | ok m => exact ⟨m, rfl⟩
      obtain ⟨m, hm⟩ := hok
      rw [Account.tell_of_strict_nil _ _ _ hpolicy hkept, hdelivered, hkept,
        account_finish_of_module hm, hm]
      refine ⟨by simp, by simp, fun _ hf => (by cases hf), ?_⟩
      intro found hf
      cases hf
      exact ⟨m, rfl, rfl⟩
    | cons d ds =>
      rw [Account.tell_of_strict_cons _ _ _ hpolicy hkept, hdelivered, hkept]
      refine ⟨rfl, ⟨fun _ => .inr ⟨rfl, by simp⟩, fun _ => ⟨_, rfl⟩⟩, ?_, fun _ hf => by cases hf⟩
      intro failure hf
      cases hf
      exact ⟨d.escalate, rfl, rfl⟩

/-- A comment, an end of block, and a lexer that breaks off. -/
def brokenLexing : Lexing where
  tokens := [⟨TokenKind.comment, "# a", ⟨1, 0, 1, 3⟩⟩, ⟨TokenKind.dedent, "", .point 2 0⟩]
  fault := some (.token [.string "EOF in multi-line statement", .tuple [.int 2, .int 0]])

def doubtfulParsing : Parsing where
  warnings := [⟨"invalid escape", "DeprecationWarning", some 1⟩]
  result := .ok (some ⟨.mk 0 "Module" {} [], some false⟩)

/-- The warning is dropped, and the fault of the lexer stops the parse without losing the comment. -/
theorem run_delivers_kept_of_broken_lexing :
    let b : Backend := ⟨⟨3, 12⟩, ⟨true, true⟩⟩
    let engine := Engine.scripted brokenLexing doubtfulParsing
    let buffer : Buffer := { text := some ['#', ' ', 'a'] }
    let fault : Diagnostic :=
      ⟨.fatal, "EOF in multi-line statement", some (.point 2 0), "TokenError"⟩
    engine.Answers buffer.name b.release ['#', ' ', 'a'] brokenLexing doubtfulParsing ∧
      ∃ outcome, b.run engine (some {}) buffer = .ok outcome ∧
        outcome.sink = some ⟨[fault]⟩ ∧
        outcome.result = .error ⟨fault.message, some fault, [⟨"# a", ⟨1, 0, 1, 3⟩⟩],
          [⟨TokenKind.comment, "# a", ⟨1, 0, 1, 3⟩⟩]⟩ := by
  intro b engine buffer fault
  have hanswers :
      engine.Answers buffer.name b.release ['#', ' ', 'a'] brokenLexing doubtfulParsing := by
    refine ⟨rfl, rfl, ?_, ?_⟩
    · rintro f ⟨⟩
      exact .token _ _ _
    · rintro m ⟨⟩
      rfl
  refine ⟨hanswers, ?_⟩
  obtain ⟨outcome, hrun, hsink, hfails, hfailure, -⟩ := run_delivers_kept (some {}) rfl hanswers
  obtain ⟨failure, hresult⟩ := hfails.mpr (.inr ⟨rfl, by decide⟩)
  obtain ⟨d, hd, rfl⟩ := hfailure failure hresult
  cases hd
  exact ⟨outcome, hrun, hsink, hresult⟩

end Backend

end SourceUnit
