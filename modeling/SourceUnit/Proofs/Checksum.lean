import SourceUnit.Proofs.Spelling
import SourceUnit.Proofs.TolerantUtf8

/-! The checksum of a source does not depend on whether it was given as bytes or decoded first, even if
the bytes are no UTF-8. -/
namespace SourceUnit

theorem RawSource.spells_decodeEscaping_iff {bs : List UInt8} {s : List Char} :
    (RawSource.text (Utf8.decodeEscaping bs)).Spells s ↔ (RawSource.bytes bs).Spells s := by
  constructor
  · intro h
    have hbytes := Utf8.encodeAny_decodeEscaping bs
    rw [show Utf8.decodeEscaping bs = s.map CodePoint.ofChar from h, Utf8.encodeAny_ofChar] at hbytes
    exact (Option.some.inj hbytes).symm
  · intro h
    rw [show bs = Utf8.encode s from h]
    exact Utf8.decodeTolerant_encode s

namespace ParsedUnit

theorem rawBytes_decodeEscaping (bs : List UInt8) :
    rawBytes (.text (Utf8.decodeEscaping bs)) = .ok bs := by
  simp only [rawBytes, Utf8.encodeAny_decodeEscaping]

theorem exists_rawBytes (cs : List CodePoint) : ∃ bs, rawBytes (.text cs) = .ok bs := by
  obtain ⟨bs, hbs⟩ := Utf8.exists_encodeAny cs
  exact ⟨bs, by simp only [rawBytes, hbs]⟩

section Build

variable {settings : Settings} {registry : Registry Maker} {engine : Engine}
  {wanted : Option Value} {path : Option String} {raw : RawSource}

theorem checksum_of_build {u : ParsedUnit} {bs : List UInt8}
    (hu : (build settings registry engine wanted path raw).result = .ok u)
    (hraw : rawBytes raw = .ok bs) : u.checksum = .ok (Digest.sha1 bs).text := by
  rw [checksum, (keeps_of_build hu).1, hraw]
  rfl

/-- A source that is no text makes a unit as soon as there is a maker for the release, and the release
can be written out. -/
theorem exists_build_iff_of_not_spells (hraw : raw ≠ .other) (h : ¬∃ s, raw.Spells s) :
    (∃ u, (build settings registry engine wanted path raw).result = .ok u) ↔
      (∃ maker, registry.select (wanted.getD (.string settings.release)) = .ok maker) ∧
        ∃ release, Release.parse (wanted.getD (.string settings.release)) = .ok release ∧
          release.Writable := by
  cases hselect : registry.select (wanted.getD (.string settings.release)) with
  | error e => simp [build, hselect]
  | ok maker =>
    obtain ⟨release, hrelease⟩ := exists_release_of_select hselect
    obtain ⟨e, p, he, hp⟩ := Buffer.exists_problem_of_not_spells (bufferName path) hraw h
    rw [(makes_of_refusal hselect hrelease he hp).exists_result_iff, and_iff_right ⟨maker, rfl⟩]

theorem exists_build_decodeEscaping_iff (bs : List UInt8) :
    (∃ u, (build settings registry engine wanted path (.text (Utf8.decodeEscaping bs))).result =
      .ok u) ↔ ∃ v, (build settings registry engine wanted path (.bytes bs)).result = .ok v := by
  by_cases h : ∃ s, (RawSource.bytes bs).Spells s
  · obtain ⟨s, hs⟩ := h
    rw [build_given hs (RawSource.spells_decodeEscaping_iff.mpr hs)]
    cases hresult : (build settings registry engine wanted path (.bytes bs)).result with
    | error e => simp [Construction.given, hresult, Except.map]
    | ok v => simp [Construction.given, hresult, Except.map]
  · have htext : ¬∃ s, (RawSource.text (Utf8.decodeEscaping bs)).Spells s := by
      simpa only [RawSource.spells_decodeEscaping_iff] using h
    rw [exists_build_iff_of_not_spells (by simp) h, exists_build_iff_of_not_spells (by simp) htext]

end Build

/-- Bytes can be read as text in exactly one way, with a surrogate for each byte that is no UTF-8, and
the text gives the same bytes back. So the units of the two sources are made under the same conditions
and have the same checksum. Any code points at all have bytes to take a checksum of. -/
theorem checksum_survives_decoding (bs : List UInt8) :
    (∀ cs, Utf8.Escapes bs cs ↔ cs = Utf8.decodeEscaping bs) ∧
    rawBytes (.text (Utf8.decodeEscaping bs)) = .ok bs ∧
    (∀ (settings : Settings) (registry : Registry Maker) (engine : Engine) (wanted : Option Value)
      (path : Option String),
      let text := build settings registry engine wanted path (.text (Utf8.decodeEscaping bs))
      let bytes := build settings registry engine wanted path (.bytes bs)
      ((∃ u, text.result = .ok u) ↔ ∃ v, bytes.result = .ok v) ∧
      ∀ u v, text.result = .ok u → bytes.result = .ok v →
        u.checksum = v.checksum ∧ v.checksum = .ok (Digest.sha1 bs).text) ∧
    ∀ cs : List CodePoint, ∃ out, rawBytes (.text cs) = .ok out := by
  refine ⟨fun cs => Utf8.escapes_iff, rawBytes_decodeEscaping bs, ?_, exists_rawBytes⟩
  intro settings registry engine wanted path text bytes
  refine ⟨exists_build_decodeEscaping_iff bs, ?_⟩
  intro u v hu hv
  have hchecksum : v.checksum = .ok (Digest.sha1 bs).text := checksum_of_build hv rfl
  exact ⟨(checksum_of_build hu (rawBytes_decodeEscaping bs)).trans hchecksum.symm, hchecksum⟩

/-- A letter, a surrogate in three bytes, an overlong form, a sequence that a letter breaks off, and one
that the end does. -/
def brokenBytes : List UInt8 :=
  [0x61, 0xED, 0xA0, 0x80, 0xC0, 0xAF, 0xE2, 0x82, 0x41, 0xF0, 0x9F]

theorem checksum_survives_decoding_of_brokenBytes :
    let registry : Registry Maker := ⟨[(⟨3, 8⟩, .plugin echo)]⟩
    let construction := build {} registry (.scripted ⟨[], none⟩ ⟨[], .ok none⟩)
      (some (.release ⟨3, 8⟩)) none
    (Utf8.decodeEscaping brokenBytes).map (·.val) =
        [0x61, 0xDCED, 0xDCA0, 0xDC80, 0xDCC0, 0xDCAF, 0xDCE2, 0xDC82, 0x41, 0xDCF0, 0xDC9F] ∧
      ∃ u v, (construction (.text (Utf8.decodeEscaping brokenBytes))).result = .ok u ∧
        (construction (.bytes brokenBytes)).result = .ok v ∧ u.checksum = v.checksum := by
  intro registry construction
  refine ⟨by decide +kernel, ?_⟩
  obtain ⟨-, -, hbuilds, -⟩ := checksum_survives_decoding brokenBytes
  obtain ⟨hbuilt, hsame⟩ :=
    hbuilds {} registry (.scripted ⟨[], none⟩ ⟨[], .ok none⟩) (some (.release ⟨3, 8⟩)) none
  have hdecode : Utf8.decode brokenBytes = .error ⟨1, .continuation⟩ := by decide +kernel
  have hnormal : Buffer.normalize (bufferName none) (.bytes brokenBytes) =
      .error (.undecodable (bufferName none) ⟨1, .continuation⟩) := by
    simp only [Buffer.normalize, hdecode]
  have hselect : registry.select (.release ⟨3, 8⟩) = .ok (.plugin echo) := rfl
  have hv : (construction (.bytes brokenBytes)).result = .ok _ :=
    (makes_of_refusal hselect rfl hnormal rfl).result_eq ⟨3, 8⟩ rfl (by decide +kernel)
  obtain ⟨u, hu⟩ := hbuilt.mpr ⟨_, hv⟩
  exact ⟨u, _, hu, hv, (hsame u _ hu hv).1⟩

end ParsedUnit

end SourceUnit
