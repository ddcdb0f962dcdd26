import SourceUnit.Proofs.BufferMemory
import SourceUnit.Proofs.PolicyFlags

/-! A text may be given by its code points or as UTF-8. The unit that is built is the same, down to
its checksum; only the source that is kept with it tells how the text was given. -/
namespace SourceUnit

namespace Utf8

theorem mapM_escapedBytes?_ofChar (s : List Char) :
    (s.map CodePoint.ofChar).mapM escapedBytes? = some (s.map String.utf8EncodeChar) := by
  induction s with
  | nil => rfl
  | cons c s ih => simp [escapedBytes?, ih]

/-- Of a text without surrogates, the bytes that are hashed are its UTF-8. -/
theorem encodeAny_ofChar (s : List Char) :
    encodeAny (s.map CodePoint.ofChar) = some (encode s) := by
  unfold encodeAny encodeBy
  rw [mapM_escapedBytes?_ofChar, Option.map_some, ← List.flatMap_def]
  rfl

end Utf8

/-- The unit, as if its source had been given in another way. -/
def ParsedUnit.given (u : ParsedUnit) (raw : RawSource) : ParsedUnit := { u with raw }

def Construction.given (c : Construction ParsedUnit) (raw : RawSource) : Construction ParsedUnit :=
  { c with result := c.result.map (·.given raw) }

namespace ParsedUnit

theorem adopt_given (u : ParsedUnit) (raw : RawSource) (backend : Made) (sink : Option Sink)
    (f : Findings) : (u.given raw).adopt backend sink f = (u.adopt backend sink f).map (·.given raw) := by
  have hbuffer : (u.given raw).buffer = u.buffer := rfl
  unfold adopt
  rw [hbuffer]
  cases treeOf u.buffer backend f.root with
  | error e => rfl
  | ok tree => cases f.tokens.mapM RawToken.toToken <;> rfl

theorem parse_given (u : ParsedUnit) (raw : RawSource) (maker : Maker) (engine : Engine) :
    (u.given raw).parse maker engine = (u.parse maker engine).given raw := by
  cases hrun : maker.run u.policy engine (some {}) u.buffer with
  | error e =>
    have hgiven : maker.run (u.given raw).policy engine (some {}) (u.given raw).buffer = .error e := hrun
    rw [parse_of_error hrun, parse_of_error hgiven]
    rfl
  | ok o =>
    have hgiven : maker.run (u.given raw).policy engine (some {}) (u.given raw).buffer = .ok o := hrun
    rw [parse_of_run hrun, parse_of_run hgiven, adopt_given]
    rfl

theorem announce_given (c : Construction ParsedUnit) (raw : RawSource) :
    c.given raw >>= announce = (c >>= announce).given raw := by
  cases hc : c.result with
  | error e =>
    have hgiven : (c.given raw).result = .error e := by rw [Construction.given, hc]; rfl
    rw [Construction.bind_of_error hc, Construction.bind_of_error hgiven]
    rfl
  | ok u =>
    have hgiven : (c.given raw).result = .ok (u.given raw) := by rw [Construction.given, hc]; rfl
    have hevent : (u.given raw).processedEvent = u.processedEvent := rfl
    rw [Construction.bind_of_ok hc, Construction.bind_of_ok hgiven, announce_eq, announce_eq, hevent]
    cases u.processedEvent <;> rfl

theorem adopt_keeps {u v : ParsedUnit} {backend : Made} {sink : Option Sink} {f : Findings}
    (h : u.adopt backend sink f = .ok v) :
    v.raw = u.raw ∧ v.buffer = u.buffer ∧ v.encodingError = u.encodingError := by
  obtain ⟨tree, tokens, -, -, rfl⟩ := adopt_eq_ok_iff.mp h
  exact ⟨rfl, rfl, rfl⟩

theorem parse_keeps {u v : ParsedUnit} {maker : Maker} {engine : Engine}
    (h : (u.parse maker engine).result = .ok v) :
    v.raw = u.raw ∧ v.buffer = u.buffer ∧ v.encodingError = u.encodingError := by
  obtain ⟨outcome, -, hadopt⟩ := adopt_of_parse h
  exact adopt_keeps hadopt

theorem rawBytes_of_spells {raw : RawSource} {s : List Char} (h : raw.Spells s) :
    rawBytes raw = .ok (Utf8.encode s) := by
  cases raw with
  | text cs =>
    obtain rfl : cs = s.map CodePoint.ofChar := h
    simp only [rawBytes, Utf8.encodeAny_ofChar]
  | bytes bs => exact congrArg Except.ok h
  | other => exact h.elim

/-- Units that say the same about a text, though it may have been given in different ways. -/
structure SameReading (u v : ParsedUnit) : Prop extends u.SameText v where
  tree : u.tree = v.tree
  diagnostics : u.diagnostics = v.diagnostics
  validSyntax : u.validSyntax = v.validSyntax

theorem sameReading_given (u : ParsedUnit) {raw : RawSource} {s : List Char} (h : u.raw.Spells s)
    (h' : raw.Spells s) : u.SameReading (u.given raw) := by
  have hbytes : rawBytes u.raw = rawBytes raw := by
    rw [rawBytes_of_spells h, rawBytes_of_spells h']
  refine ⟨⟨rfl, rfl, rfl, rfl, rfl, ?_, rfl⟩, rfl, rfl, rfl⟩
  unfold checksum
  rw [hbytes]
  rfl

section Build

variable {settings : Settings} {registry : Registry Maker} {engine : Engine}
  {wanted : Option Value} {path : Option String} {raw raw' : RawSource} {s : List Char}

theorem build_given (h : raw.Spells s) (h' : raw'.Spells s) :
    build settings registry engine wanted path raw' =
      (build settings registry engine wanted path raw).given raw' := by
  cases hselect : registry.select (wanted.getD (.string settings.release)) with
  | error e => simp only [build, hselect]; rfl
  | ok maker =>
    obtain ⟨release, hrelease⟩ := exists_release_of_select hselect
    rw [build_of_text hselect hrelease (Buffer.normalize_of_spells _ h),
      build_of_text hselect hrelease (Buffer.normalize_of_spells _ h'), ← announce_given, ← parse_given]
    rfl

/-- A text never keeps the maker that was selected from being called, and a sound maker makes a
unit. -/
theorem build_reaches_maker {maker : Maker} (h : raw.Spells s)
    (hselect : registry.select (wanted.getD (.string settings.release)) = .ok maker) :
    (build settings registry engine wanted path raw).built = [maker] ∧
      (maker.Sound engine (bufferName path) (Buffer.dropMark s) →
        ∃ u, (build settings registry engine wanted path raw).Makes
          (wanted.getD (.string settings.release)) u) := by
  obtain ⟨release, hrelease⟩ := exists_release_of_select hselect
  have hnormal := Buffer.normalize_of_spells (bufferName path) h
  constructor
  · rw [build_of_text hselect hrelease hnormal, Construction.built_announce, parse_built]
  · intro hsound
    let u := read settings release path raw (Buffer.dropMark s)
    have hmaker : maker.Sound engine u.buffer.name (Buffer.dropMark s) := hsound
    obtain ⟨a, ha⟩ := hmaker.exists_account rfl
    obtain ⟨tokens, htokens⟩ := ha.named.mapM_toToken
    exact ⟨u.withAccount a tokens, makes_of_account hselect hrelease hnormal ha htokens⟩

/-- A unit keeps its source as given, and holds the text of the source or says why there is none. -/
theorem keeps_of_build {u : ParsedUnit}
    (hu : (build settings registry engine wanted path raw).result = .ok u) :
    u.raw = raw ∧
      ((∃ text, Buffer.normalize (bufferName path) raw = .ok text ∧ u.encodingError = none ∧
          u.buffer.Holds text ∧ u.buffer.firstLine = 1) ∨
        ∃ e, Buffer.normalize (bufferName path) raw = .error e ∧ u.encodingError = some e) := by
  cases hselect : registry.select (wanted.getD (.string settings.release)) with
  | error e => simp [build, hselect] at hu
  | ok maker =>
    obtain ⟨release, hrelease⟩ := exists_release_of_select hselect
    cases hnormal : Buffer.normalize (bufferName path) raw with
    | ok text =>
      obtain ⟨hraw, hbuffer, hencoding⟩ := parse_keeps (parse_of_build hselect hrelease hnormal hu)
      refine ⟨hraw, .inl ⟨text, rfl, hencoding, ?_, ?_⟩⟩
      · rw [hbuffer]
        exact ⟨rfl, fun ls hls => (Option.some.inj hls).symm⟩
      · rw [hbuffer]
        rfl
    | error e =>
      obtain rfl := eq_of_build hselect hrelease hnormal hu
      exact ⟨rfl, .inr ⟨e, rfl, rfl⟩⟩

theorem build_keeps {u : ParsedUnit} (h : raw.Spells s)
    (hu : (build settings registry engine wanted path raw).result = .ok u) :
    u.raw = raw ∧ u.buffer.source = .ok (Buffer.dropMark s) ∧ u.encodingError = none := by
  obtain ⟨hraw, hcases⟩ := keeps_of_build hu
  rw [Buffer.normalize_of_spells _ h] at hcases
  rcases hcases with ⟨text, ⟨⟩, hencoding, hholds, -⟩ | ⟨e, ⟨⟩, -⟩
  exact ⟨hraw, hholds.source_eq, hencoding⟩

end Build

/-- A text without surrogates and its UTF-8 lead to the same events, call the same maker, and fail
with the same error or make units that agree in everything but the source as given. Neither unit has
an encoding error, and both hold the text without its byte order mark. What is hashed tells texts
apart. -/
theorem build_text_agrees_with_bytes (settings : Settings) (registry : Registry Maker)
    (engine : Engine) (wanted : Option Value) (path : Option String) {cs : List CodePoint}
    (hcs : ∀ c ∈ cs, c.isSurrogate = false) :
    ∃ s : List Char, cs = s.map CodePoint.ofChar ∧
      let text := build settings registry engine wanted path (.text cs)
      let bytes := build settings registry engine wanted path (.bytes (Utf8.encode s))
      text.events = bytes.events ∧ text.built = bytes.built ∧
      (∀ maker, registry.select (wanted.getD (.string settings.release)) = .ok maker →
        text.built = [maker] ∧
          (maker.Sound engine (bufferName path) (Buffer.dropMark s) →
            ∃ u, text.Makes (wanted.getD (.string settings.release)) u)) ∧
      ((∃ e, text.result = .error e ∧ bytes.result = .error e) ∨
        ∃ u v, text.result = .ok u ∧ bytes.result = .ok v ∧ u.SameReading v ∧
          u.encodingError = none ∧ v.encodingError = none ∧
          u.buffer.source = .ok (Buffer.dropMark s)) ∧
      ∀ others : List CodePoint, (∀ c ∈ others, c.isSurrogate = false) →
        rawBytes (.text others) = rawBytes (.text cs) → others = cs := by
  obtain ⟨s, rfl⟩ := CodePoint.exists_chars hcs
  have htext : (RawSource.text (s.map CodePoint.ofChar)).Spells s := rfl
  have hbytes : (RawSource.bytes (Utf8.encode s)).Spells s := rfl
  refine ⟨s, rfl, ?_⟩
  intro text bytes
  have hgiven : bytes = text.given _ := build_given htext hbytes
  refine ⟨by rw [hgiven]; rfl, by rw [hgiven]; rfl,
    fun maker hselect => build_reaches_maker htext hselect, ?_, ?_⟩
  · rw [hgiven]
    cases hresult : text.result with
    | error e => exact .inl ⟨e, rfl, by simp [Construction.given, hresult, Except.map]⟩
    | ok u =>
      obtain ⟨hraw, hsource, hencoding⟩ := build_keeps htext hresult
      refine .inr ⟨u, u.given (.bytes (Utf8.encode s)), rfl, ?_, ?_, hencoding, hencoding, hsource⟩
      · simp [Construction.given, hresult, Except.map]
      · exact sameReading_given u (hraw ▸ htext) hbytes
  · intro others hothers heq
    obtain ⟨t, rfl⟩ := CodePoint.exists_chars hothers
    have hothers' : (RawSource.text (t.map CodePoint.ofChar)).Spells t := rfl
    rw [rawBytes_of_spells htext, rawBytes_of_spells hothers'] at heq
    rw [Utf8.encode_injective (Except.ok.inj heq)]

/-- A backend that reports the text it is given. -/
def echo : Plugin where
  shown := "Echo"
  run policy sink buffer :=
    let heard := match buffer.source with
      | .ok s => String.ofList s
      | .error _ => ""
    .ok (Replay.run { diagnostics := [{ level := .warning, message := heard }] } policy sink)

theorem echo_sound (engine : Engine) (name : String) (source : List Char) :
    (Maker.plugin echo).Sound engine name source := by
  refine ⟨{ diagnostics := [{ level := .warning, message := String.ofList source }] }, trivial, ?_, ?_⟩
  · intro t ht
    cases ht
  · intro policy sink buffer _ hsource
    simp only [echo, hsource]

/-- Two byte order marks, and characters of two, three and four bytes. -/
def twiceMarked : List Char := ['\ufeff', '\ufeff', 'é', '€', '😀', '\r']

/-- One mark is dropped and the other is part of the text, however it was given. -/
theorem build_text_agrees_with_bytes_of_twiceMarked :
    let registry : Registry Maker := ⟨[(⟨3, 8⟩, .plugin echo)]⟩
    let cs := twiceMarked.map CodePoint.ofChar
    let construction := build {} registry (.scripted ⟨[], none⟩ ⟨[], .ok none⟩)
      (some (.release ⟨3, 8⟩)) none
    (∀ c ∈ cs, c.isSurrogate = false) ∧ registry.select (.release ⟨3, 8⟩) = .ok (.plugin echo) ∧
      ∃ u v, (construction (.text cs)).result = .ok u ∧
        (construction (.bytes (Utf8.encode twiceMarked))).result = .ok v ∧ u.SameReading v ∧
        u.buffer.source = .ok ['\ufeff', 'é', '€', '😀', '\r'] := by
  intro registry cs construction
  have hcs : ∀ c ∈ cs, c.isSurrogate = false := by
    intro c hc
    obtain ⟨ch, -, rfl⟩ := List.mem_map.mp hc
    exact CodePoint.isSurrogate_ofChar ch
  have hselect : registry.select (.release ⟨3, 8⟩) = .ok (.plugin echo) := rfl
  refine ⟨hcs, hselect, ?_⟩
  obtain ⟨s, hs, -, -, hreached, hagree, -⟩ :=
    build_text_agrees_with_bytes {} registry (.scripted ⟨[], none⟩ ⟨[], .ok none⟩)
      (some (.release ⟨3, 8⟩)) none hcs
  obtain rfl : twiceMarked = s := by
    have hchars := Utf8.chars_eq_ok_iff.mpr hs
    rw [Utf8.chars_eq_ok_iff.mpr rfl] at hchars
    exact Except.ok.inj hchars
  obtain ⟨w, hmakes⟩ := (hreached _ hselect).2 (echo_sound _ _ _)
  have hw := hmakes.result_eq ⟨3, 8⟩ rfl (by decide +kernel)
  rcases hagree with ⟨e, he, -⟩ | ⟨u, v, hu, hv, hsame, -, -, hsource⟩
  · cases hw.symm.trans he
  · exact ⟨u, v, hu, hv, hsame, hsource⟩

end ParsedUnit

end SourceUnit
