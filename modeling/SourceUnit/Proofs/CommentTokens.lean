import SourceUnit.Proofs.Spelling

/-! Comments and tokens reach a unit apart from each other: comments are picked by the number of
their kind before tokens are named, and either may come from a parse that was stopped. They agree all
the same, since only the kind of comments is named so. -/
namespace SourceUnit

namespace TokenKind

theorem nodup_names : names.Nodup := by decide +kernel

theorem name_nonterminals : "NT_OFFSET" ∉ names := by decide +kernel

/-- A name belongs to one kind only. -/
theorem nameOf?_injective {k k' : Int} {n : String} (h : nameOf? k = some n)
    (h' : nameOf? k' = some n) : k = k' := by
  have hnew {j : Nat} : names[j]? ≠ some "NT_OFFSET" := fun hj =>
    name_nonterminals (List.mem_of_getElem? hj)
  unfold nameOf? at h h'
  split at h
  · cases h
    split at h'
    · omega
    · split at h'
      · exact absurd h' hnew
      · cases h'
  · split at h
    · split at h'
      · cases h'
        exact absurd h hnew
      · split at h'
        · obtain ⟨hlt, -⟩ := List.getElem?_eq_some_iff.mp h
          have hindex := (List.getElem?_inj hlt nodup_names).mp (h.trans h'.symm)
          omega
        · cases h'
    · cases h

/-- The names that a token can get from the spelling of an operator. -/
def operatorNames : List String := "OP" :: operators.map (·.2)

theorem mem_operatorNames_of_lookup {text n : String} (h : operators.lookup text = some n) :
    n ∈ operatorNames := by
  obtain ⟨before, after, hsplit, -⟩ := List.lookup_eq_some_iff.mp h
  refine List.mem_cons_of_mem _ (List.mem_map.mpr ⟨(text, n), ?_, rfl⟩)
  rw [hsplit]
  exact List.mem_append_right _ List.mem_cons_self

end TokenKind

namespace RawToken

/-- A name that no operator has is given to one kind only. -/
theorem exactName?_eq_some_iff (t : RawToken) {n : String} {k : Int}
    (hname : TokenKind.nameOf? k = some n) (hn : n ∉ TokenKind.operatorNames) :
    t.exactName? = some n ↔ t.kind = k := by
  unfold exactName?
  split
  next hop =>
    constructor
    · intro h
      split at h
      · cases h
        exact absurd (TokenKind.mem_operatorNames_of_lookup ‹_›) hn
      · cases h
        exact absurd List.mem_cons_self hn
    · intro hkind
      have hopName : TokenKind.nameOf? TokenKind.op = some "OP" := rfl
      rw [← hkind, hop, hopName] at hname
      cases hname
      exact absurd List.mem_cons_self hn
  next =>
    constructor
    · intro h
      exact TokenKind.nameOf?_injective h hname
    · rintro rfl
      exact hname

theorem rightUnique_shows : Relator.RightUnique Shows := by
  intro t a b ha hb
  have hkind := Option.some.inj (ha.kind.symm.trans hb.kind)
  have htext := ha.text.symm.trans hb.text
  have hspan := ha.span.symm.trans hb.span
  cases a
  cases b
  simp_all

namespace Shows

variable {t : RawToken} {token : Token} (h : t.Shows token)
include h

theorem kind_iff {n : String} {k : Int} (hname : TokenKind.nameOf? k = some n)
    (hn : n ∉ TokenKind.operatorNames) : token.kind = n ↔ t.kind = k := by
  rw [← t.exactName?_eq_some_iff hname hn, h.kind, Option.some.injEq]

theorem isComment_iff : token.isComment = true ↔ t.kind = TokenKind.comment := by
  rw [Token.isComment, beq_iff_eq]
  exact h.kind_iff rfl (by decide)

theorem isShown_iff :
    Backend.isShown t = true ↔ token.kind ≠ "ENDMARKER" ∧ token.kind ≠ "DEDENT" := by
  have hend : token.kind = "ENDMARKER" ↔ t.kind = TokenKind.endMarker := h.kind_iff rfl (by decide)
  have hdedent : token.kind = "DEDENT" ↔ t.kind = TokenKind.dedent := h.kind_iff rfl (by decide)
  simp [Backend.isShown, hend, hdedent]

end Shows

end RawToken

def Token.comment (t : Token) : Comment := ⟨t.text, t.span⟩

/-- Picking comments before naming tokens and after it gives the same comments. -/
theorem filterMap_comment? {raw : List RawToken} {tokens : List Token}
    (h : List.Forall₂ RawToken.Shows raw tokens) :
    raw.filterMap (·.comment?) = (tokens.filter (·.isComment)).map (·.comment) := by
  induction h with
  | nil => rfl
  | @cons t token _ _ hshows _ ih =>
    have hiff := hshows.isComment_iff
    by_cases hkind : t.kind = TokenKind.comment
    · have hcomment : t.comment? = some token.comment := by
        rw [RawToken.comment?, if_pos hkind, hshows.text, hshows.span]
        rfl
      rw [List.filterMap_cons_some hcomment, List.filter_cons_of_pos (hiff.mpr hkind), List.map_cons,
        ih]
    · have hcomment : t.comment? = none := by rw [RawToken.comment?, if_neg hkind]
      rw [List.filterMap_cons_none hcomment,
        List.filter_cons_of_neg fun hnot => hkind (hiff.mp hnot), ih]

theorem kind_of_isShown {raw : List RawToken} {tokens : List Token}
    (h : List.Forall₂ RawToken.Shows raw tokens) (hshown : ∀ t ∈ raw, Backend.isShown t = true) :
    ∀ t ∈ tokens, t.kind ≠ "ENDMARKER" ∧ t.kind ≠ "DEDENT" := by
  induction h with
  | nil => simp
  | cons hshows _ ih =>
    rw [List.forall_mem_cons] at hshown ⊢
    exact ⟨hshows.isShown_iff.mp hshown.1, ih hshown.2⟩

/-- A run that comes to an end hands over the shown tokens and their comments, whatever the lexer and
the parser say. -/
theorem Backend.run_found {b : Backend} {engine : Engine} {sink : Option Sink} {buffer : Buffer}
    {source : List Char} {outcome : Outcome} (hsource : buffer.source = .ok source)
    (h : b.run engine sink buffer = .ok outcome) :
    outcome.found.tokens = shown (engine.lex source) ∧
      outcome.found.comments = (shown (engine.lex source)).filterMap (·.comment?) := by
  obtain ⟨source', parsing, hsource', -, rfl⟩ := tells_of_run h
  obtain rfl : source = source' := Except.ok.inj (hsource.symm.trans hsource')
  rcases (account buffer (engine.lex source) parsing).tell_result_cases b.policy sink with
    ⟨f, hf, hcomments, htokens⟩ | ⟨root, -, hroot⟩
  · simp only [Outcome.found, hf]
    exact ⟨htokens, hcomments⟩
  · simp only [Outcome.found, hroot]
    exact ⟨rfl, rfl⟩

namespace ParsedUnit

theorem adopt_takes_over {u v : ParsedUnit} {backend : Made} {sink : Option Sink} {f : Findings}
    (h : u.adopt backend sink f = .ok v) :
    v.comments = f.comments ∧ List.Forall₂ RawToken.Shows f.tokens v.tokens := by
  obtain ⟨tree, tokens, -, htokens, rfl⟩ := adopt_eq_ok_iff.mp h
  exact ⟨rfl, RawToken.forall₂_shows htokens⟩

theorem parse_takes_over {u v : ParsedUnit} {grammar : Release} {engine : Engine}
    {source : List Char} (hsource : u.buffer.source = .ok source)
    (h : (u.parse (.grammar grammar) engine).result = .ok v) :
    v.comments = (Backend.shown (engine.lex source)).filterMap (·.comment?) ∧
      List.Forall₂ RawToken.Shows (Backend.shown (engine.lex source)) v.tokens := by
  obtain ⟨outcome, hrun, hadopt⟩ := adopt_of_parse h
  obtain ⟨htokens, hcomments⟩ := Backend.run_found hsource hrun
  rw [← hcomments, ← htokens]
  exact adopt_takes_over hadopt

/-- The comments of a unit are the tokens named as comments, and its tokens are those of the lexer
without the ends of blocks and of the text. This holds of every unit that a maker that parses has a
part in, however the parse went; it makes one of every text that is read by its rules. -/
theorem build_comments_eq_tokens (settings : Settings) (registry : Registry Maker) (engine : Engine)
    (wanted : Option Value) (path : Option String) (raw : RawSource) {grammar : Release}
    (hselect : registry.select (wanted.getD (.string settings.release)) = .ok (.grammar grammar)) :
    let construction := build settings registry engine wanted path raw
    (∀ s, raw.Spells s →
      (Maker.grammar grammar).Sound engine (bufferName path) (Buffer.dropMark s) →
        ∃ u, construction.Makes (wanted.getD (.string settings.release)) u) ∧
    ∀ u, construction.result = .ok u →
      u.comments = (u.tokens.filter (·.isComment)).map (·.comment) ∧
      (∀ t ∈ u.tokens, t.kind ≠ "ENDMARKER" ∧ t.kind ≠ "DEDENT") ∧
      ∀ s, raw.Spells s → List.Forall₂ RawToken.Shows
        ((engine.lex (Buffer.dropMark s)).tokens.filter fun t =>
          t.kind ≠ TokenKind.endMarker ∧ t.kind ≠ TokenKind.dedent) u.tokens := by
  intro construction
  refine ⟨fun s hs hsound => (build_reaches_maker hs hselect).2 hsound, ?_⟩
  intro u hu
  obtain ⟨release, hrelease⟩ := exists_release_of_select hselect
  cases hraw : Buffer.normalize (bufferName path) raw with
  | ok text =>
    obtain ⟨hcomments, htokens⟩ := parse_takes_over rfl (parse_of_build hselect hrelease hraw hu)
    refine ⟨hcomments.trans (filterMap_comment? htokens),
      kind_of_isShown htokens fun t ht => (List.mem_filter.mp ht).2, ?_⟩
    intro s hs
    have htext := Buffer.normalize_of_spells (bufferName path) hs
    obtain rfl : text = Buffer.dropMark s := Except.ok.inj (hraw.symm.trans htext)
    have hfilter : (engine.lex (Buffer.dropMark s)).tokens.filter (fun t =>
        t.kind ≠ TokenKind.endMarker ∧ t.kind ≠ TokenKind.dedent) =
          Backend.shown (engine.lex (Buffer.dropMark s)) := by
      apply List.filter_congr
      intro t _
      simp [Backend.isShown]
    rwa [hfilter]
  | error e =>
    -- nothing was lexed; what is left to show speaks of texts only
    have hspells (s : List Char) : ¬raw.Spells s := fun hs => by
      cases hraw.symm.trans (Buffer.normalize_of_spells (bufferName path) hs)
    obtain rfl := eq_of_build hselect hrelease hraw hu
    exact ⟨rfl, by simp [unread], fun s hs => absurd hs (hspells s)⟩

/-- An operator spelled like the name of comments, and a lexer that breaks off after the ends of a
block and of the text. -/
def disguisedLexing : Lexing where
  tokens := [⟨TokenKind.op, "->", ⟨1, 0, 1, 2⟩⟩, ⟨TokenKind.op, "COMMENT", ⟨1, 2, 1, 9⟩⟩,
    ⟨TokenKind.comment, "# a", ⟨1, 9, 1, 12⟩⟩, ⟨TokenKind.dedent, "", .point 2 0⟩,
    ⟨TokenKind.endMarker, "", .point 2 0⟩]
  fault := Backend.brokenLexing.fault

/-- The fault of the lexer stops the parse, and the tokens and the comment survive it. -/
theorem build_comments_eq_tokens_of_disguised :
    let registry := Registry.standard Maker.grammar
    let engine := Engine.scripted disguisedLexing Backend.doubtfulParsing
    let settings : Settings := { allErrorsFatal := true }
    let construction := build settings registry engine (some (.release ⟨3, 12⟩)) none (.bytes [])
    registry.select (.release ⟨3, 12⟩) = .ok (.grammar ⟨3, 12⟩) ∧
      (Maker.grammar ⟨3, 12⟩).Sound engine "(string)" [] ∧
      ∃ u, construction.result = .ok u ∧ u.tokens.map (·.kind) = ["RARROW", "OP", "COMMENT"] ∧
        u.comments = [⟨"# a", ⟨1, 9, 1, 12⟩⟩] := by
  intro registry engine settings construction
  have hselect : registry.select (.release ⟨3, 12⟩) = .ok (.grammar ⟨3, 12⟩) := rfl
  have hsound : (Maker.grammar ⟨3, 12⟩).Sound engine "(string)" [] := by
    refine ⟨disguisedLexing, Backend.doubtfulParsing, ⟨rfl, rfl, ?_, ?_⟩, ?_⟩
    · rintro f ⟨⟩
      exact .token _ _ _
    · rintro m ⟨⟩
      rfl
    · unfold Named
      decide
  obtain ⟨hmade, hagree⟩ := build_comments_eq_tokens settings registry engine
    (some (.release ⟨3, 12⟩)) none (.bytes []) hselect
  obtain ⟨u, hmakes⟩ := hmade [] rfl hsound
  have hu : construction.result = .ok u := hmakes.result_eq ⟨3, 12⟩ rfl (by decide +kernel)
  obtain ⟨hcomments, -, htokens⟩ := hagree u hu
  have hnamed : u.tokens = [⟨"RARROW", "->", ⟨1, 0, 1, 2⟩⟩, ⟨"OP", "COMMENT", ⟨1, 2, 1, 9⟩⟩,
      ⟨"COMMENT", "# a", ⟨1, 9, 1, 12⟩⟩] := by
    refine List.right_unique_forall₂' RawToken.rightUnique_shows (htokens [] rfl) ?_
    exact .cons ⟨rfl, rfl, rfl⟩ (.cons ⟨rfl, rfl, rfl⟩ (.cons ⟨rfl, rfl, rfl⟩ .nil))
  refine ⟨hselect, hsound, u, hu, ?_, ?_⟩
  · rw [hnamed]
    rfl
  · rw [hcomments, hnamed]
    rfl

end ParsedUnit

end SourceUnit
