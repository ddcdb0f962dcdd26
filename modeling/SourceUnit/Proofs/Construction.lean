import Mathlib.Data.List.Forall2
import SourceUnit.ParsedUnit
import SourceUnit.Proofs.Account
import SourceUnit.Proofs.RegistryHistory

/-! How a unit comes out of the account that a backend gives. The account and the text decide
everything; the policy only chooses how much of the account is delivered, and whether a tree is
left. -/
namespace SourceUnit

/-- A token as a lexer gives it, and the same token by name. -/
structure RawToken.Shows (t : RawToken) (token : Token) : Prop where
  kind : t.exactName? = some token.kind
  text : t.text = token.text
  span : t.span = token.span

theorem RawToken.shows_of_toToken {t : RawToken} {token : Token} (h : t.toToken = .ok token) :
    t.Shows token := by
  unfold toToken at h
  cases hkind : t.exactName? with
  | none => simp [hkind] at h
  | some kind =>
    simp only [hkind, Except.ok.injEq] at h
    subst h
    exact ⟨hkind, rfl, rfl⟩

theorem RawToken.forall₂_shows {raw : List RawToken} {tokens : List Token}
    (h : raw.mapM toToken = .ok tokens) : List.Forall₂ Shows raw tokens := by
  induction raw generalizing tokens with
  | nil =>
    cases h
    exact .nil
  | cons t ts ih =>
    rw [List.mapM_cons] at h
    cases ht : t.toToken with
    | error e => simp [ht, bind, Except.bind] at h
    | ok token =>
      cases hts : ts.mapM toToken with
      | error e => simp [ht, hts, bind, Except.bind] at h
      | ok rest =>
        simp only [ht, hts, bind, Except.bind, pure, Except.pure, Except.ok.injEq] at h
        subst h
        exact .cons (shows_of_toToken ht) (ih hts)

def Named (tokens : List RawToken) : Prop := ∀ t ∈ tokens, t.exactName?.isSome

theorem Named.mapM_toToken {tokens : List RawToken} (h : Named tokens) :
    ∃ named, tokens.mapM RawToken.toToken = .ok named := by
  induction tokens with
  | nil => exact ⟨[], rfl⟩
  | cons t ts ih =>
    obtain ⟨named, hnamed⟩ := ih fun t' ht' => h t' (by simp [ht'])
    obtain ⟨kind, hkind⟩ := Option.isSome_iff_exists.mp (h t (by simp))
    refine ⟨⟨kind, t.text, t.span⟩ :: named, ?_⟩
    have ht : t.toToken = .ok ⟨kind, t.text, t.span⟩ := by simp [RawToken.toToken, hkind]
    rw [List.mapM_cons, ht, hnamed]
    rfl

def Root.Native : Root → Prop
  | .foreign _ => False
  | _ => True

theorem Backend.native_of_ending {buffer : Buffer} {lexing : Lexing} {parsing : Parsing}
    {root : Root} (h : (account buffer lexing parsing).ending = .ok root) : root.Native := by
  unfold account at h
  cases hresult : parsing.result with
  | error fault => simp [hresult] at h
  | ok m =>
    simp only [hresult, Except.ok.injEq] at h
    subst h
    unfold moduleRoot
    split
    · trivial
    · trivial

theorem Replay.native_of_ending (script : Replay) (h : script.root.Native) {root : Root}
    (hroot : script.account.ending = .ok root) : root.Native := by
  unfold account at hroot
  cases hfails : script.fails with
  | true => simp [hfails] at hroot
  | false =>
    simp only [hfails, Bool.false_eq_true, if_false, Except.ok.injEq] at hroot
    exact hroot ▸ h

/-- The tree that a root makes over a buffer. -/
def Root.tree (buffer : Buffer) : Root → Option SyntaxTree
  | .node n => (SyntaxTree.ofBuffer buffer n).toOption.map (·.complete)
  | _ => none

theorem SyntaxTree.ofBuffer_of_assigned {b : Buffer} (h : b.isAssigned = true) (n : Node) :
    ofBuffer b n = .ok (ofRoot b h n) :=
  dif_pos h

theorem Root.isSome_tree_iff {b : Buffer} (h : b.isAssigned = true) (root : Root) :
    (root.tree b).isSome = true ↔ ∃ n, root = .node n := by
  cases root with
  | absent => simp [tree]
  | foreign typeName => simp [tree]
  | node n => simp [tree, SyntaxTree.ofBuffer_of_assigned h, Except.toOption]

/-- What a run found. A run that was stopped found no root. -/
def Outcome.found (o : Outcome) : Findings :=
  match o.result with
  | .ok findings => findings
  | .error failure => ⟨.absent, failure.comments, failure.tokens⟩

namespace Maker

/-- What a maker may be. One that parses has an engine that keeps its contract on the text; one
that replays hands over a node or nothing; one that is plugged in does on the text what some script
does. In all cases kinds of tokens have names. -/
def Sound (engine : Engine) (name : String) (source : List Char) : Maker → Prop
  | .grammar release => ∃ lexing parsing,
      engine.Answers name release source lexing parsing ∧ Named lexing.tokens
  | .replay _ script => script.root.Native ∧ Named script.tokens
  | .plugin p => ∃ script : Replay, script.root.Native ∧ Named script.tokens ∧
      ∀ policy sink buffer, buffer.name = name → buffer.source = .ok source →
        p.run policy sink buffer = .ok (script.run policy sink)

/-- The account that a maker gives of a buffer, whatever the policy and the sink. -/
structure Gives (m : Maker) (engine : Engine) (buffer : Buffer) (a : Account) : Prop where
  told : ∀ p sink, m.run p engine sink buffer = .ok (a.tell p sink)
  native : ∀ root, a.ending = .ok root → root.Native
  named : Named a.tokens

theorem Sound.exists_account {m : Maker} {engine : Engine} {buffer : Buffer} {source : List Char}
    (h : m.Sound engine buffer.name source) (hsource : buffer.source = .ok source) :
    ∃ a, m.Gives engine buffer a := by
  cases m with
  | grammar release =>
    obtain ⟨lexing, parsing, hanswers, hnamed⟩ := h
    refine ⟨Backend.account buffer lexing parsing, ?_, fun root => Backend.native_of_ending, ?_⟩
    · intro p sink
      exact Backend.run_eq_tell (b := ⟨release, p⟩) sink hsource hanswers
    · intro t ht
      exact hnamed t (List.mem_filter.mp ht).1
  | replay number script =>
    refine ⟨script.account, ?_, fun root => script.native_of_ending h.1, h.2⟩
    intro p sink
    exact congrArg Except.ok (script.run_eq_tell p sink)
  | plugin plugged =>
    obtain ⟨script, hnative, hnamed, hrun⟩ := h
    refine ⟨script.account, ?_, fun root => script.native_of_ending hnative, hnamed⟩
    intro p sink
    exact (hrun p sink buffer rfl hsource).trans (congrArg Except.ok (script.run_eq_tell p sink))

end Maker

namespace Account

def delivered (a : Account) (p : Policy) : List Diagnostic :=
  if p.allFatal then ((p.kept a.reports).head?.map (·.escalate)).toList
  else throughFatal (p.kept a.reports)

/-- The tree over a buffer that is left of an account under a policy. -/
def tree (a : Account) (p : Policy) (buffer : Buffer) : Option SyntaxTree :=
  (a.tell p (some {})).found.root.tree buffer

/-- However a parse ends, what was found comes out. -/
theorem tell_result_cases (a : Account) (p : Policy) (sink : Option Sink) :
    (∃ f, (a.tell p sink).result = .error f ∧ f.comments = a.comments ∧ f.tokens = a.tokens) ∨
      ∃ root, a.ending = .ok root ∧ (a.tell p sink).result = .ok ⟨root, a.comments, a.tokens⟩ := by
  unfold tell
  rcases p.reportAll sink a.reports with ⟨sink, _ | f⟩
  · unfold finish
    cases a.ending with
    | error f => exact .inl ⟨_, rfl, rfl, rfl⟩
    | ok root => exact .inr ⟨root, rfl, rfl⟩
  · exact .inl ⟨_, rfl, rfl, rfl⟩

theorem found_tell (a : Account) (p : Policy) (sink : Option Sink)
    (h : ∀ root, a.ending = .ok root → root.Native) :
    (a.tell p sink).found.root.Native ∧ (a.tell p sink).found.comments = a.comments ∧
      (a.tell p sink).found.tokens = a.tokens := by
  unfold Outcome.found
  rcases a.tell_result_cases p sink with ⟨f, hf, hcomments, htokens⟩ | ⟨root, hroot, hfound⟩
  · rw [hf]
    exact ⟨trivial, hcomments, htokens⟩
  · rw [hfound]
    exact ⟨h root hroot, rfl, rfl⟩

theorem tell_empty_sink (a : Account) (p : Policy) :
    (a.tell p (some {})).sink = some ⟨a.delivered p⟩ := by
  unfold delivered
  cases hpolicy : p.allFatal with
  | false => simp [tell_of_lenient a p _ hpolicy, Sink.pushAll]
  | true => simp [tell_of_strict a p _ hpolicy, Sink.pushAll]

end Account

namespace ParsedUnit

def policy (u : ParsedUnit) : Policy := ⟨u.settings.allErrorsFatal, u.settings.ignoreWarnings⟩

/-- A unit that has taken over an account, with its tokens named. -/
def withAccount (u : ParsedUnit) (a : Account) (tokens : List Token) : ParsedUnit :=
  { u with
    tree := a.tree u.policy u.buffer
    comments := a.comments
    tokens
    diagnostics := a.delivered u.policy }

theorem treeOf_of_native {b : Buffer} (hassigned : b.isAssigned = true) (backend : Made) {root : Root}
    (h : root.Native) : treeOf b backend root = .ok (root.tree b) := by
  cases root with
  | foreign typeName => exact h.elim
  | absent => rfl
  | node n =>
    rw [treeOf, Root.tree, SyntaxTree.ofBuffer_of_assigned hassigned]
    rfl

/-- What a unit takes over from a backend, and what it keeps. -/
theorem adopt_eq_ok_iff {u v : ParsedUnit} {backend : Made} {sink : Option Sink} {f : Findings} :
    u.adopt backend sink f = .ok v ↔
      ∃ tree tokens, treeOf u.buffer backend f.root = .ok tree ∧
        f.tokens.mapM RawToken.toToken = .ok tokens ∧
        v = { u with
          tree, comments := f.comments, tokens, diagnostics := (sink.map (·.diagnostics)).getD [] } := by
  unfold adopt
  cases treeOf u.buffer backend f.root with
  | error e => simp [bind, Except.bind]
  | ok tree =>
    cases f.tokens.mapM RawToken.toToken with
    | error e => simp [bind, Except.bind]
    | ok tokens => simp [bind, Except.bind, pure, Except.pure, eq_comm]

/-- The backend that a maker builds for a unit. -/
def made (u : ParsedUnit) (maker : Maker) (engine : Engine) : Made :=
  ⟨maker.describe, maker.run u.policy engine⟩

/-- The event of a run that was stopped. -/
def absorbed (u : ParsedUnit) (o : Outcome) : List Event :=
  match o.result with
  | .ok _ => []
  | .error failure => [u.failureEvent failure]

/-- A parse calls its maker once, absorbs a failure and takes over what was found. -/
theorem parse_of_run {u : ParsedUnit} {maker : Maker} {engine : Engine} {o : Outcome}
    (h : maker.run u.policy engine (some {}) u.buffer = .ok o) :
    u.parse maker engine =
      ⟨u.absorbed o, [maker], u.adopt (u.made maker engine) o.sink o.found⟩ := by
  have hrun : maker.run ⟨u.settings.allErrorsFatal, u.settings.ignoreWarnings⟩ engine (some {})
      u.buffer = .ok o := h
  simp only [parse, Maker.make_bind, hrun, Construction.lift_ok_bind]
  rcases o with ⟨sink, failure | findings⟩
  · rfl
  · rfl

theorem parse_of_error {u : ParsedUnit} {maker : Maker} {engine : Engine} {e : Error}
    (h : maker.run u.policy engine (some {}) u.buffer = .error e) :
    u.parse maker engine = ⟨[], [maker], .error e⟩ := by
  have hrun : maker.run ⟨u.settings.allErrorsFatal, u.settings.ignoreWarnings⟩ engine (some {})
      u.buffer = .error e := h
  simp only [parse, Maker.make_bind, hrun, Construction.lift_error_bind]

theorem parse_built (u : ParsedUnit) (maker : Maker) (engine : Engine) :
    (u.parse maker engine).built = [maker] := by
  cases h : maker.run u.policy engine (some {}) u.buffer with
  | error e => rw [parse_of_error h]
  | ok o => rw [parse_of_run h]

/-- A unit takes over what its maker found. -/
theorem adopt_of_parse {u v : ParsedUnit} {maker : Maker} {engine : Engine}
    (h : (u.parse maker engine).result = .ok v) :
    ∃ o, maker.run u.policy engine (some {}) u.buffer = .ok o ∧
      u.adopt (u.made maker engine) o.sink o.found = .ok v := by
  cases hrun : maker.run u.policy engine (some {}) u.buffer with
  | error e =>
    rw [parse_of_error hrun] at h
    cases h
  | ok o =>
    rw [parse_of_run hrun] at h
    exact ⟨o, rfl, h⟩

/-- A parse breaks down only at a token without a name. -/
theorem parse_eq {u : ParsedUnit} (hassigned : u.buffer.isAssigned = true) {maker : Maker}
    {engine : Engine} {a : Account}
    (htold : maker.run u.policy engine (some {}) u.buffer = .ok (a.tell u.policy (some {})))
    (hnative : ∀ root, a.ending = .ok root → root.Native) :
    u.parse maker engine =
      ⟨u.absorbed (a.tell u.policy (some {})), [maker],
        (a.tokens.mapM RawToken.toToken).map (u.withAccount a)⟩ := by
  obtain ⟨hroot, hcomments, htokens⟩ := a.found_tell u.policy (some {}) hnative
  rw [parse_of_run htold, adopt, treeOf_of_native hassigned _ hroot, hcomments, htokens,
    a.tell_empty_sink]
  cases a.tokens.mapM RawToken.toToken <;> rfl

/-- A unit is what its account leaves under its policy. -/
theorem parse_result {u : ParsedUnit} (hassigned : u.buffer.isAssigned = true) {maker : Maker}
    {engine : Engine} {a : Account} {tokens : List Token} (h : maker.Gives engine u.buffer a)
    (htokens : a.tokens.mapM RawToken.toToken = .ok tokens) :
    (u.parse maker engine).result = .ok (u.withAccount a tokens) := by
  rw [parse_eq hassigned (h.told _ _) h.native, htokens]
  rfl

theorem eq_of_refuse {u v : ParsedUnit} {e : Error} (h : (u.refuse e).result = .ok v) :
    v = { u with encodingError := some e } := by
  unfold refuse at h
  cases hproblem : e.problem? with
  | none => simp [hproblem] at h
  | some p =>
    simp only [hproblem] at h
    exact (Except.ok.inj h).symm

theorem announce_eq (u : ParsedUnit) : u.announce =
    match u.processedEvent with
    | .ok e => ⟨[e], [], .ok u⟩
    | .error e => ⟨[], [], .error e⟩ := by
  unfold announce
  cases u.processedEvent <;> rfl

end ParsedUnit

/-- The unit is of the release that the value names. It is made, unless the release is too long to be
written into the log. -/
structure Construction.Makes (c : Construction ParsedUnit) (named : Value) (u : ParsedUnit) :
    Prop where
  named : Release.parse named = .ok u.release
  made : u.release.Writable → c.result = .ok u
  overlong : ¬u.release.Writable → c.result = .error .numberTooLong

namespace Construction

variable {c : Construction ParsedUnit} {named : Value} {u : ParsedUnit}

theorem Makes.result_eq (h : c.Makes named u) (release : Release)
    (hrelease : Release.parse named = .ok release) (hwritable : release.isWritable = true) :
    c.result = .ok u := by
  obtain rfl : u.release = release := Except.ok.inj (h.named.symm.trans hrelease)
  exact h.made ((Release.isWritable_iff _).mp hwritable)

theorem Makes.exists_result_iff (h : c.Makes named u) :
    (∃ v, c.result = .ok v) ↔ ∃ release, Release.parse named = .ok release ∧ release.Writable := by
  rw [h.named]
  by_cases hwritable : u.release.Writable
  · exact ⟨fun _ => ⟨_, rfl, hwritable⟩, fun _ => ⟨u, h.made hwritable⟩⟩
  · rw [h.overlong hwritable]
    constructor
    · rintro ⟨v, ⟨⟩⟩
    · rintro ⟨release, ⟨⟩, hrelease⟩
      exact absurd hrelease hwritable

theorem built_announce (c : Construction ParsedUnit) :
    (c >>= ParsedUnit.announce).built = c.built := by
  cases h : c.result with
  | error e => rw [bind_of_error h]
  | ok u =>
    rw [bind_of_ok h, u.announce_eq]
    cases u.processedEvent <;> exact List.append_nil _

/-- Apart from the last event, a unit is logged as it was built. -/
theorem mem_events_announce {e : Event} (h : e ∈ (c >>= ParsedUnit.announce).events) :
    e ∈ c.events ∨ e.name = "source_processed" := by
  cases hc : c.result with
  | error e =>
    rw [bind_of_error hc] at h
    exact .inl h
  | ok u =>
    rw [bind_of_ok hc, u.announce_eq, ParsedUnit.processedEvent, List.mem_append] at h
    refine h.imp_right fun h => ?_
    cases hwrite : u.release.write with
    | error e => simp [hwrite, Except.map] at h
    | ok text =>
      simp only [hwrite, Except.map, List.mem_singleton] at h
      rw [h]

theorem makes_announce (hresult : c.result = .ok u) (hrelease : Release.parse named = .ok u.release) :
    (c >>= ParsedUnit.announce).Makes named u := by
  rw [bind_of_ok hresult, u.announce_eq, ParsedUnit.processedEvent]
  refine ⟨hrelease, fun h => ?_, fun h => ?_⟩
  · rw [h.write_eq]
    rfl
  · rw [Release.write_of_not_writable h]
    rfl

theorem result_of_announce (h : (c >>= ParsedUnit.announce).result = .ok u) : c.result = .ok u := by
  cases hc : c.result with
  | error e =>
    rw [bind_of_error hc] at h
    cases h
  | ok v =>
    rw [bind_of_ok hc, v.announce_eq] at h
    cases hevent : v.processedEvent with
    | error e => simp [hevent] at h
    | ok e => simpa [hevent] using h

end Construction

namespace ParsedUnit

/-- The name of a unit's buffer: its path, unless that is missing or empty. -/
def bufferName : Option String → String
  | some path => if path = "" then "(string)" else path
  | none => "(string)"

def unread (settings : Settings) (release : Release) (path : Option String) (raw : RawSource) :
    ParsedUnit where
  settings := settings
  release := release
  raw := raw
  path := path
  buffer := { name := bufferName path }

def read (settings : Settings) (release : Release) (path : Option String) (raw : RawSource)
    (text : List Char) : ParsedUnit :=
  { unread settings release path raw with
    buffer :=
      { name := bufferName path, text := some text, remembered := some (Text.lines text) } }

section Build

variable {settings : Settings} {registry : Registry Maker} {engine : Engine}
  {wanted : Option Value} {path : Option String} {raw : RawSource} {maker : Maker}
  {release : Release}

theorem exists_release_of_select {v : Value} (h : registry.select v = .ok maker) :
    ∃ r, Release.parse v = .ok r := by
  unfold Registry.select at h
  cases hparse : Release.parse v with
  | error e => simp [hparse] at h
  | ok r => exact ⟨r, rfl⟩

variable {text : List Char} {e : Error} {p : Problem} {u : ParsedUnit} {a : Account}
  {tokens : List Token}
  (hselect : registry.select (wanted.getD (.string settings.release)) = .ok maker)
  (hrelease : Release.parse (wanted.getD (.string settings.release)) = .ok release)

include hselect hrelease

/-- Once the maker and the release are settled, the source decides. -/
theorem build_eq :
    build settings registry engine wanted path raw =
      (unread settings release path raw).load maker engine >>= announce := by
  unfold build
  simp only [hselect, hrelease, Construction.lift_ok_bind]
  rfl

theorem build_of_text (hraw : Buffer.normalize (bufferName path) raw = .ok text) :
    build settings registry engine wanted path raw =
      (read settings release path raw text).parse maker engine >>= announce := by
  have hload : (unread settings release path raw).load maker engine =
      (read settings release path raw text).parse maker engine := by
    simp only [load, unread, Buffer.assign, hraw]
    rfl
  rw [build_eq hselect hrelease, hload]

theorem build_of_refusal (hraw : Buffer.normalize (bufferName path) raw = .error e) :
    build settings registry engine wanted path raw =
      (unread settings release path raw).refuse e >>= announce := by
  have hload : (unread settings release path raw).load maker engine =
      (unread settings release path raw).refuse e := by
    simp only [load, unread, Buffer.assign, hraw]
  rw [build_eq hselect hrelease, hload]

theorem parse_of_build (hraw : Buffer.normalize (bufferName path) raw = .ok text)
    (hu : (build settings registry engine wanted path raw).result = .ok u) :
    ((read settings release path raw text).parse maker engine).result = .ok u := by
  rw [build_of_text hselect hrelease hraw] at hu
  exact Construction.result_of_announce hu

theorem eq_of_build (hraw : Buffer.normalize (bufferName path) raw = .error e)
    (hu : (build settings registry engine wanted path raw).result = .ok u) :
    u = { unread settings release path raw with encodingError := some e } := by
  rw [build_of_refusal hselect hrelease hraw] at hu
  exact eq_of_refuse (Construction.result_of_announce hu)

/-- A text whose parse does not break down makes a unit. -/
theorem makes_of_parse (hraw : Buffer.normalize (bufferName path) raw = .ok text)
    (hparse : ((read settings release path raw text).parse maker engine).result = .ok u) :
    (build settings registry engine wanted path raw).Makes (wanted.getD (.string settings.release))
      u := by
  obtain ⟨o, -, hadopt⟩ := adopt_of_parse hparse
  obtain ⟨tree, tokens, -, -, rfl⟩ := adopt_eq_ok_iff.mp hadopt
  rw [build_of_text hselect hrelease hraw]
  exact Construction.makes_announce hparse hrelease

/-- A maker that gives an account of a text makes a unit. -/
theorem makes_of_account (hraw : Buffer.normalize (bufferName path) raw = .ok text)
    (ha : maker.Gives engine (read settings release path raw text).buffer a)
    (htokens : a.tokens.mapM RawToken.toToken = .ok tokens) :
    (build settings registry engine wanted path raw).Makes (wanted.getD (.string settings.release))
      ((read settings release path raw text).withAccount a tokens) :=
  makes_of_parse hselect hrelease hraw (parse_result rfl ha htokens)

/-- A source that is no text makes a unit all the same. -/
theorem makes_of_refusal (hraw : Buffer.normalize (bufferName path) raw = .error e)
    (hproblem : e.problem? = some p) :
    (build settings registry engine wanted path raw).Makes (wanted.getD (.string settings.release))
      { unread settings release path raw with encodingError := some e } := by
  rw [build_of_refusal hselect hrelease hraw]
  refine Construction.makes_announce ?_ hrelease
  simp only [refuse, hproblem]

end Build

end ParsedUnit

end SourceUnit
