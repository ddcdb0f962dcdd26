import Mathlib.Order.Bounds.Basic
import SourceUnit.Proofs.SourceText

/-! Which bytes and which code points a buffer takes, and where it says that they go wrong. The
grammar of UTF-8 is given by the numbers that sequences of bytes spell, without a look at the ranges
that the decoder tests. -/
namespace SourceUnit

namespace Utf8

/-! ### The grammar -/

def Continues (b : UInt8) : Prop := 0x80 ≤ b.toNat ∧ b.toNat < 0xC0

/-- A sequence of bytes and the number it spells. The number must need that many bytes, must not be
a surrogate, and must not lie above the last code point. -/
inductive Sequence : List UInt8 → Nat → Prop where
  | one {a : UInt8} : a.toNat < 0x80 → Sequence [a] a.toNat
  | two {a b : UInt8} {v : Nat} : 0xC0 ≤ a.toNat → a.toNat < 0xE0 → Continues b →
      v = (a.toNat - 0xC0) * 64 + (b.toNat - 0x80) → 0x80 ≤ v → Sequence [a, b] v
  | three {a b c : UInt8} {v : Nat} : 0xE0 ≤ a.toNat → a.toNat < 0xF0 → Continues b → Continues c →
      v = ((a.toNat - 0xE0) * 64 + (b.toNat - 0x80)) * 64 + (c.toNat - 0x80) → 0x800 ≤ v →
      ¬(0xD800 ≤ v ∧ v ≤ 0xDFFF) → Sequence [a, b, c] v
  | four {a b c d : UInt8} {v : Nat} : 0xF0 ≤ a.toNat → a.toNat < 0xF8 → Continues b →
      Continues c → Continues d →
      v = (((a.toNat - 0xF0) * 64 + (b.toNat - 0x80)) * 64 + (c.toNat - 0x80)) * 64 +
        (d.toNat - 0x80) → 0x10000 ≤ v → v ≤ 0x10FFFF → Sequence [a, b, c, d] v

/-- Sequences one after another, with nothing before, between or after them. -/
inductive WellFormed : List UInt8 → Prop where
  | nil : WellFormed []
  | append {q bs : List UInt8} {v : Nat} : Sequence q v → WellFormed bs → WellFormed (q ++ bs)

theorem Sequence.eq_encodeChar {q : List UInt8} {v : Nat} (h : Sequence q v) :
    q = String.utf8EncodeChar (Char.ofNat v) := by
  cases h with
  | one ha => exact (encodeChar_one ha).symm
  | two ha ha' hb hv hlong =>
    rw [hv, encodeChar_two (by have := hb.2; omega) ha' hb.1 hb.2]
  | three ha ha' hb hc hv hlong hsurrogate =>
    have hb' := hb.2
    have hc' := hc.2
    rw [hv, encodeChar_three ha ha' hb.1 hb.2 (by omega) (by omega) hc.1 hc.2]
  | four ha ha' hb hc hd hv hlong hhigh =>
    have hb' := hb.2
    have hc' := hc.2
    have hd' := hd.2
    rw [hv, encodeChar_four ha (by omega) hb.1 hb.2 (by omega) (by omega) hc.1 hc.2 hd.1 hd.2]

theorem continues_ofNat {n : Nat} (h : n < 64) : Continues (UInt8.ofNat (n + 0x80)) := by
  rw [Continues, UInt8.toNat_ofNat_of_lt' (show n + 0x80 < 256 by omega)]
  omega

theorem sequence_encodeChar (c : Char) : Sequence (String.utf8EncodeChar c) c.toNat := by
  have hvalid : c.val.toNat < 0xD800 ∨ 0xDFFF < c.val.toNat ∧ c.val.toNat < 0x110000 := c.valid
  change Sequence _ c.val.toNat
  unfold String.utf8EncodeChar
  dsimp only
  generalize c.val.toNat = v at hvalid ⊢
  have hbyte {n : Nat} (h : n < 256) : (UInt8.ofNat n).toNat = n := UInt8.toNat_ofNat_of_lt' h
  -- in each case the number is put together again from what its bytes took
  have h6 : (UInt8.ofNat (v % 0x40 + 0x80)).toNat = v % 0x40 + 0x80 := hbyte (by omega)
  have h12 : (UInt8.ofNat (v / 64 % 0x40 + 0x80)).toNat = v / 64 % 0x40 + 0x80 := hbyte (by omega)
  split
  · have ha : (UInt8.ofNat v).toNat = v := hbyte (by omega)
    have hone := Sequence.one (a := UInt8.ofNat v) (by omega)
    rwa [ha] at hone
  · split
    · have ha : (UInt8.ofNat (v / 64 % 0x20 + 0xc0)).toNat = v / 64 + 0xc0 := by
        rw [hbyte (by omega)]
        omega
      exact .two (by omega) (by omega) (continues_ofNat (by omega)) (by omega) (by omega)
    · split
      · have ha : (UInt8.ofNat (v / 4096 % 0x10 + 0xe0)).toNat = v / 4096 + 0xe0 := by
          rw [hbyte (by omega)]
          omega
        exact .three (by omega) (by omega) (continues_ofNat (by omega)) (continues_ofNat (by omega))
          (by omega) (by omega) (by omega)
      · have ha : (UInt8.ofNat (v / 262144 % 0x08 + 0xf0)).toNat = v / 262144 + 0xf0 := by
          rw [hbyte (by omega)]
          omega
        have h18 : (UInt8.ofNat (v / 4096 % 0x40 + 0x80)).toNat = v / 4096 % 0x40 + 0x80 :=
          hbyte (by omega)
        exact .four (by omega) (by omega) (continues_ofNat (by omega)) (continues_ofNat (by omega))
          (continues_ofNat (by omega)) (by omega) (by omega) (by omega)

/-- The well-formed byte strings are the encoded texts. -/
theorem wellFormed_iff {bs : List UInt8} : WellFormed bs ↔ ∃ s, encode s = bs := by
  constructor
  · intro h
    induction h with
    | nil => exact ⟨[], rfl⟩
    | append hq _ ih =>
      obtain ⟨s, rfl⟩ := ih
      exact ⟨Char.ofNat _ :: s, by rw [encode, List.flatMap_cons, hq.eq_encodeChar]; rfl⟩
  · rintro ⟨s, rfl⟩
    induction s with
    | nil => exact .nil
    | cons c s ih => exact .append (sequence_encodeChar c) ih

/-! ### Where decoding stops -/

/-- No character can be read from the first byte on. -/
def Stuck (bs : List UInt8) : Prop :=
  ∃ b rest reason, bs = b :: rest ∧ decodeChar b rest = .error reason

theorem stuck_of_decodeFrom {position : Nat} {read : List Char} {bs : List UInt8} {fault : Fault}
    (h : decodeFrom position read bs = .error fault) :
    ∃ s rest, bs = encode s ++ rest ∧ Stuck rest ∧ fault.position = position + byteLength s := by
  fun_induction decodeFrom position read bs with
  | case1 position read => cases h
  | case2 position read b rest reason hchar =>
    cases h
    exact ⟨[], b :: rest, rfl, ⟨b, rest, reason, rfl, hchar⟩, rfl⟩
  | case3 position read b rest c rest' hchar ih =>
    obtain ⟨s, stuck, hrest, hstuck, hposition⟩ := ih h
    refine ⟨c :: s, stuck, ?_, hstuck, ?_⟩
    · rw [eq_encodeChar_of_decodeChar hchar, hrest, encode, encode, List.flatMap_cons,
        List.append_assoc]
    · rw [hposition, byteLength_cons, Nat.add_assoc]

theorem decodeChar_encode_cons (c : Char) (s : List Char) (tail : List UInt8) :
    ∃ b rest, encode (c :: s) ++ tail = b :: rest ∧
      decodeChar b rest = .ok (c, encode s ++ tail) := by
  obtain ⟨b, bs, hencode, hdecode⟩ := decodeChar_encodeChar c (encode s ++ tail)
  refine ⟨b, bs ++ (encode s ++ tail), ?_, hdecode⟩
  rw [encode, List.flatMap_cons, hencode, List.append_assoc]
  rfl

/-- No text reaches past the bytes where no character can be read. -/
theorem prefix_of_stuck {s t : List Char} {rest : List UInt8} (hstuck : Stuck rest)
    (h : encode t <+: encode s ++ rest) : t <+: s := by
  induction t generalizing s with
  | nil => exact List.nil_prefix
  | cons c t ih =>
    obtain ⟨tail, htail⟩ := h
    obtain ⟨b, more, hbytes, hdecode⟩ := decodeChar_encode_cons c t tail
    rw [htail] at hbytes
    cases s with
    | nil =>
      obtain ⟨b', more', reason, rfl, herror⟩ := hstuck
      cases hbytes
      cases hdecode.symm.trans herror
    | cons d s =>
      -- one byte string starts with one character only
      obtain ⟨b', more', hbytes', hdecode'⟩ := decodeChar_encode_cons d s rest
      cases hbytes.symm.trans hbytes'
      have hsame := Except.ok.inj (hdecode.symm.trans hdecode')
      obtain ⟨rfl, hrest⟩ := Prod.mk.inj hsame
      rw [List.cons_prefix_cons]
      exact ⟨rfl, ih ⟨tail, hrest⟩⟩

/-- A fault stands at the end of the longest well-formed prefix. -/
theorem isGreatest_position {bs : List UInt8} {fault : Fault} (h : decode bs = .error fault) :
    IsGreatest {n | ∃ start, start <+: bs ∧ WellFormed start ∧ start.length = n} fault.position := by
  obtain ⟨s, rest, rfl, hstuck, hposition⟩ := stuck_of_decodeFrom h
  rw [Nat.zero_add] at hposition
  constructor
  · exact ⟨encode s, List.prefix_append _ _, wellFormed_iff.mpr ⟨s, rfl⟩, hposition.symm⟩
  · rintro n ⟨start, hprefix, hstart, rfl⟩
    obtain ⟨t, rfl⟩ := wellFormed_iff.mp hstart
    obtain ⟨u, rfl⟩ := prefix_of_stuck hstuck hprefix
    rw [hposition, byteLength_append]
    exact Nat.le_add_right _ _

/-! ### Code points -/

theorem isSurrogate_of_toChar?_eq_none {c : CodePoint} (h : c.toChar? = none) :
    c.isSurrogate = true := by
  cases hsurrogate : c.isSurrogate with
  | true => rfl
  | false =>
    obtain ⟨ch, rfl⟩ := CodePoint.exists_ofChar hsurrogate
    simp at h

theorem findIdx?_of_charsFrom {index i : Nat} {read : List Char} {cs : List CodePoint}
    (h : charsFrom index read cs = .error i) :
    ∃ k, cs.findIdx? (·.isSurrogate) = some k ∧ i = index + k := by
  fun_induction charsFrom index read cs with
  | case1 index read => cases h
  | case2 index read c cs ch hchar ih =>
    obtain ⟨k, hk, rfl⟩ := ih h
    refine ⟨k + 1, ?_, by omega⟩
    rw [ofChar_eq_of_toChar? hchar, List.findIdx?_cons, CodePoint.isSurrogate_ofChar, hk]
    rfl
  | case3 index read c cs hchar =>
    cases h
    refine ⟨0, ?_, rfl⟩
    rw [List.findIdx?_cons, isSurrogate_of_toChar?_eq_none hchar]
    rfl

end Utf8

namespace Buffer

variable (b : Buffer)

theorem assign_of_spells {raw : RawSource} {s : List Char} (h : raw.Spells s) :
    ∃ b', b.assign raw = .ok b' ∧ b'.Unmarks s := by
  simp only [assign, normalize_of_spells b.name h]
  exact ⟨_, rfl, unmarks_of_source rfl⟩

/-- An error that tells the caller where a source stops being a text. -/
def Places (e : Error) (name : String) (position : Nat) : Prop :=
  ∃ p reason, e.problem? = some p ∧ p.kind = .encoding ∧
    p.details = [(.string "path", .string name), (.string "position", .int position),
      (.string "reason", .string reason)]

/-- Bytes are taken exactly if they are well-formed UTF-8, and code points exactly if no surrogate is
among them. What is refused is refused at the end of its longest well-formed prefix, or at its first
surrogate. -/
theorem assign_takes_exactly_texts (bs : List UInt8) (cs : List CodePoint) :
    (Utf8.WellFormed bs → ∃ b' s, b.assign (.bytes bs) = .ok b' ∧
      (∀ t, Utf8.encode t = bs ↔ t = s) ∧ b'.Unmarks s) ∧
    (¬Utf8.WellFormed bs → ∃ e position, b.assign (.bytes bs) = .error e ∧
      Places e b.name position ∧
      IsGreatest {n | ∃ start, start <+: bs ∧ Utf8.WellFormed start ∧ start.length = n} position) ∧
    ((∀ c ∈ cs, c.isSurrogate = false) → ∃ b' s, b.assign (.text cs) = .ok b' ∧
      s.map CodePoint.ofChar = cs ∧ b'.Unmarks s) ∧
    ((∃ c ∈ cs, c.isSurrogate = true) → ∃ e position, b.assign (.text cs) = .error e ∧
      Places e b.name position ∧ cs.findIdx? (·.isSurrogate) = some position) := by
  refine ⟨?_, ?_, ?_, ?_⟩
  · intro hformed
    obtain ⟨s, rfl⟩ := Utf8.wellFormed_iff.mp hformed
    have hspells : (RawSource.bytes (Utf8.encode s)).Spells s := rfl
    obtain ⟨b', hassign, hunmarks⟩ := b.assign_of_spells hspells
    exact ⟨b', s, hassign, fun t => Utf8.encode_injective.eq_iff, hunmarks⟩
  · intro hformed
    cases hdecode : Utf8.decode bs with
    | ok s => exact absurd (Utf8.wellFormed_iff.mpr ⟨s, (Utf8.decode_eq_ok_iff.mp hdecode).symm⟩) hformed
    | error fault =>
      refine ⟨.undecodable b.name fault, fault.position, ?_, ⟨_, _, rfl, rfl, rfl⟩,
        Utf8.isGreatest_position hdecode⟩
      simp only [assign, normalize, hdecode]
  · intro hchars
    obtain ⟨s, rfl⟩ := CodePoint.exists_chars hchars
    have hspells : (RawSource.text (s.map CodePoint.ofChar)).Spells s := rfl
    obtain ⟨b', hassign, hunmarks⟩ := b.assign_of_spells hspells
    exact ⟨b', s, hassign, rfl, hunmarks⟩
  · rintro ⟨c, hc, hsurrogate⟩
    cases hchars : Utf8.chars cs with
    | ok s =>
      rw [Utf8.chars_eq_ok_iff.mp hchars, List.mem_map] at hc
      obtain ⟨ch, -, rfl⟩ := hc
      rw [CodePoint.isSurrogate_ofChar] at hsurrogate
      cases hsurrogate
    | error position =>
      obtain ⟨k, hk, hposition⟩ := Utf8.findIdx?_of_charsFrom hchars
      rw [Nat.zero_add] at hposition
      refine ⟨.unencodable b.name position, position, ?_, ⟨_, _, rfl, rfl, rfl⟩, hposition ▸ hk⟩
      simp only [assign, normalize, hchars]

/-- A surrogate written in three bytes is refused where it starts, as the surrogate itself is. A byte
order mark is taken off the start of a text, and only there. -/
theorem assign_takes_exactly_texts_of_mark_and_surrogate :
    let b : Buffer := { name := "a" }
    let broken : List UInt8 := [0x61, 0xED, 0xA0, 0x80]
    let lone : List CodePoint := [0x61, 0xD800]
    let marked : List UInt8 := [0xEF, 0xBB, 0xBF, 0xC3, 0xA9]
    let plain : List CodePoint := ['é', '\ufeff'].map CodePoint.ofChar
    (¬Utf8.WellFormed broken ∧ ∃ e, b.assign (.bytes broken) = .error e ∧ Places e "a" 1) ∧
      ((∃ c ∈ lone, c.isSurrogate = true) ∧
        ∃ e, b.assign (.text lone) = .error e ∧ Places e "a" 1) ∧
      (Utf8.WellFormed marked ∧ ∃ b', b.assign (.bytes marked) = .ok b' ∧ b'.source = .ok ['é']) ∧
      (∀ c ∈ plain, c.isSurrogate = false) ∧
        ∃ b', b.assign (.text plain) = .ok b' ∧ b'.source = .ok ['é', '\ufeff'] := by
  intro b broken lone marked plain
  obtain ⟨-, hrefused, -, hrefused'⟩ := b.assign_takes_exactly_texts broken lone
  obtain ⟨htaken, -, htaken', -⟩ := b.assign_takes_exactly_texts marked plain
  have hdecode : Utf8.decode broken = .error ⟨1, .continuation⟩ := by decide +kernel
  have hbroken : ¬Utf8.WellFormed broken := by
    rw [Utf8.wellFormed_iff]
    rintro ⟨s, hs⟩
    cases hdecode.symm.trans (Utf8.decode_eq_ok_iff.mpr hs.symm)
  have hlone : ∃ c ∈ lone, c.isSurrogate = true :=
    ⟨0xD800, List.mem_cons_of_mem _ List.mem_cons_self, rfl⟩
  have hencode : Utf8.encode ['\ufeff', 'é'] = marked := by decide +kernel
  have hmarked : Utf8.WellFormed marked := Utf8.wellFormed_iff.mpr ⟨_, hencode⟩
  have hplain : ∀ c ∈ plain, c.isSurrogate = false := by
    intro c hc
    obtain ⟨ch, -, rfl⟩ := List.mem_map.mp hc
    exact CodePoint.isSurrogate_ofChar ch
  refine ⟨⟨hbroken, ?_⟩, ⟨hlone, ?_⟩, ⟨hmarked, ?_⟩, hplain, ?_⟩
  · obtain ⟨e, position, he, hplaces, hgreatest⟩ := hrefused hbroken
    obtain rfl : position = 1 := hgreatest.unique (Utf8.isGreatest_position hdecode)
    exact ⟨e, he, hplaces⟩
  · obtain ⟨e, position, he, hplaces, hfirst⟩ := hrefused' hlone
    obtain rfl : position = 1 := Option.some.inj (hfirst.symm.trans rfl)
    exact ⟨e, he, hplaces⟩
  · obtain ⟨b', s, hassign, hunique, hunmarks⟩ := htaken hmarked
    exact ⟨b', hassign, hunmarks.of_mark ['é'] ((hunique _).mp hencode).symm⟩
  · obtain ⟨b', s, hassign, hs, hunmarks⟩ := htaken' hplain
    have hchars : Utf8.chars plain = .ok ['é', '\ufeff'] := Utf8.chars_eq_ok_iff.mpr rfl
    obtain rfl : s = ['é', '\ufeff'] :=
      Except.ok.inj ((Utf8.chars_eq_ok_iff.mpr hs.symm).symm.trans hchars)
    exact ⟨b', hassign, hunmarks.of_no_mark (by decide)⟩

end Buffer

end SourceUnit
