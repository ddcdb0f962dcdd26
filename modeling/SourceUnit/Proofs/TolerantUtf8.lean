import SourceUnit.Proofs.StrictUtf8

/-! Decoding that steps over what is broken. On the bytes of a text it reads the text. Of a text that
is cut inside a character it loses that character and nothing else. With surrogates for the bytes
that it cannot read, it loses nothing at all. -/
namespace SourceUnit.Utf8

variable {stray : UInt8 → List CodePoint} {b : UInt8} {rest rest' : List UInt8} {c : Char}

/-! ### Whole characters -/

theorem decodeTolerant_of_ok (h : decodeChar b rest = .ok (c, rest')) :
    decodeTolerant stray (b :: rest) = CodePoint.ofChar c :: decodeTolerant stray rest' := by
  rw [decodeTolerant]
  split
  · rename_i hchar
    rw [h] at hchar
    cases hchar
    rfl
  · rename_i hchar
    rw [h] at hchar
    cases hchar

theorem decodeTolerant_of_error {reason : Reason} (h : decodeChar b rest = .error reason) :
    decodeTolerant stray (b :: rest) =
      (b :: rest.take (brokenLength b rest)).flatMap stray ++
        decodeTolerant stray (rest.drop (brokenLength b rest)) := by
  rw [decodeTolerant]
  split
  · rename_i hchar
    rw [h] at hchar
    cases hchar
  · rfl

theorem decodeTolerant_encode_append (s : List Char) (tail : List UInt8) :
    decodeTolerant stray (encode s ++ tail) =
      s.map CodePoint.ofChar ++ decodeTolerant stray tail := by
  induction s with
  | nil => rfl
  | cons c s ih =>
    obtain ⟨b, rest, hbytes, hdecode⟩ := decodeChar_encode_cons c s tail
    rw [hbytes, decodeTolerant_of_ok hdecode, ih, List.map_cons, List.cons_append]

theorem decodeTolerant_encode (s : List Char) :
    decodeTolerant stray (encode s) = s.map CodePoint.ofChar := by
  rw [← List.append_nil (encode s), decodeTolerant_encode_append, decodeTolerant, List.append_nil]

/-! ### A character cut short -/

/-- Continuation bytes that are cut short all fit, and the sequence is truncated. -/
theorem follow_take {n : Nat} {low high : UInt8} {value v m : Nat} {bs : List UInt8}
    (h : follow n low high value bs = .ok (v, [])) (hm : m < bs.length) :
    follow n low high value (bs.take m) = .error .truncated ∧
      fitting n low high (bs.take m) = m := by
  induction n generalizing low high value bs m with
  | zero =>
    obtain ⟨-, rfl⟩ := eq_of_follow_zero h
    cases hm
  | succ n ih =>
    obtain ⟨b, tail, rfl, hlow, hhigh, hrest⟩ := exists_of_follow h
    cases m with
    | zero => exact ⟨rfl, rfl⟩
    | succ m =>
      obtain ⟨hfollow, hfits⟩ := ih hrest (Nat.lt_of_succ_lt_succ hm)
      have hrange : low ≤ b ∧ b ≤ high :=
        ⟨UInt8.le_iff_toNat_le.mpr hlow, UInt8.le_iff_toNat_le.mpr hhigh⟩
      rw [List.take_succ_cons, follow_cons hlow hhigh, fitting, if_pos hrange, hfits]
      exact ⟨hfollow, rfl⟩

theorem decodeChar_take {bs : List UInt8} {m : Nat} (h : decodeChar b bs = .ok (c, []))
    (hm : m < bs.length) :
    decodeChar b (bs.take m) = .error .truncated ∧ brokenLength b (bs.take m) = m := by
  cases hlead : lead? b with
  | none => simp [decodeChar, hlead] at h
  | some l =>
    obtain ⟨v, -, hfollow⟩ := exists_of_decodeChar hlead h
    obtain ⟨hcut, hfits⟩ := follow_take hfollow hm
    simp only [decodeChar, brokenLength, hlead, hcut, hfits, and_self]

theorem decodeIgnoring_cut {n : Nat} (h : n < c.utf8Size) :
    decodeIgnoring ((String.utf8EncodeChar c).take n) = [] := by
  unfold decodeIgnoring
  cases n with
  | zero =>
    rw [List.take_zero, decodeTolerant]
  | succ n =>
    obtain ⟨b, bs, hbytes, hdecode⟩ := decodeChar_encodeChar c []
    rw [List.append_nil] at hdecode
    have hlength : c.utf8Size = bs.length + 1 := by
      rw [← String.length_utf8EncodeChar, hbytes, List.length_cons]
    obtain ⟨hcut, hbroken⟩ := decodeChar_take hdecode (m := n) (by omega)
    rw [hbytes, List.take_succ_cons, decodeTolerant_of_error hcut, hbroken,
      List.drop_eq_nil_of_le (List.length_take_le n bs), decodeTolerant]
    simp

/-- From the first bytes of a text exactly the characters are read that lie whole within them. -/
theorem decodeIgnoring_take_encode (s : List Char) (n : Nat) :
    decodeIgnoring ((encode s).take n) = (s.take (charsWithin s n)).map CodePoint.ofChar := by
  induction s generalizing n with
  | nil =>
    rw [encode_nil, List.take_nil, List.take_nil, decodeIgnoring, decodeTolerant, List.map_nil]
  | cons c s ih =>
    have hlength : (String.utf8EncodeChar c).length = c.utf8Size := String.length_utf8EncodeChar c
    rw [charsWithin, encode, List.flatMap_cons, ← encode, List.take_append, hlength]
    by_cases hfits : c.utf8Size ≤ n
    · have hwhole : String.utf8EncodeChar c = encode [c] := by simp [encode]
      rw [if_pos hfits, List.take_of_length_le (by omega), hwhole, decodeIgnoring,
        decodeTolerant_encode_append, ← decodeIgnoring, ih]
      rfl
    · have hnone : n - c.utf8Size = 0 := by omega
      rw [if_neg hfits, hnone, List.take_zero, List.append_nil, decodeIgnoring_cut (by omega)]
      rfl

/-! ### One byte at a time -/

theorem range_of_lead? {l : Lead} (h : lead? b = some l) (howed : l.owed ≠ 0) :
    0x80 ≤ l.low.toNat ∧ l.high.toNat < 0xC0 := by
  have htable : ∀ i : Fin 256, ∀ l ∈ lead? (UInt8.ofNat i.val), l.owed ≠ 0 →
      0x80 ≤ l.low.toNat ∧ l.high.toNat < 0xC0 := by
    decide +kernel
  refine htable ⟨b.toNat, b.toNat_lt⟩ l ?_ howed
  rw [UInt8.ofNat_toNat]
  exact h

theorem continues_of_mem_fitting {n : Nat} {low high : UInt8} {bs : List UInt8}
    (hrange : 0x80 ≤ low.toNat ∧ high.toNat < 0xC0) :
    ∀ x ∈ bs.take (fitting n low high bs), Continues x := by
  induction n generalizing low high bs with
  | zero => simp [fitting]
  | succ n ih =>
    cases bs with
    | nil => simp
    | cons y bs =>
      rw [fitting]
      split
      · rename_i hfits
        have hlow := UInt8.le_iff_toNat_le.mp hfits.1
        have hhigh := UInt8.le_iff_toNat_le.mp hfits.2
        rw [List.take_succ_cons, List.forall_mem_cons]
        exact ⟨⟨by omega, by omega⟩, ih (by decide)⟩
      · simp

theorem continues_of_mem_broken : ∀ x ∈ rest.take (brokenLength b rest), Continues x := by
  unfold brokenLength
  cases hlead : lead? b with
  | none => simp
  | some l =>
    by_cases howed : l.owed = 0
    · simp [howed, fitting]
    · exact continues_of_mem_fitting (range_of_lead? hlead howed)

/-- No character starts with a continuation byte. -/
theorem decodeTolerant_continues {ys zs : List UInt8} (h : ∀ y ∈ ys, Continues y) :
    decodeTolerant stray (ys ++ zs) = ys.flatMap stray ++ decodeTolerant stray zs := by
  induction ys with
  | nil => rfl
  | cons y ys ih =>
    obtain ⟨hy, hys⟩ := List.forall_mem_cons.mp h
    have hnone : lead? y = none := lead?_none (.inl ⟨hy.1, Nat.lt_trans hy.2 (by decide)⟩)
    have herror : decodeChar y (ys ++ zs) = .error .start := by simp only [decodeChar, hnone]
    have hbroken : brokenLength y (ys ++ zs) = 0 := by simp only [brokenLength, hnone]
    rw [List.cons_append, decodeTolerant_of_error herror, hbroken, List.take_zero, List.drop_zero,
      ih hys]
    simp

/-- Whether decoding goes on after a broken sequence or after its first byte makes no difference. -/
theorem decodeTolerant_of_stuck {reason : Reason} (h : decodeChar b rest = .error reason) :
    decodeTolerant stray (b :: rest) = stray b ++ decodeTolerant stray rest := by
  have hcontinues : ∀ x ∈ rest.take (brokenLength b rest), Continues x := continues_of_mem_broken
  have hrest : decodeTolerant stray rest = (rest.take (brokenLength b rest)).flatMap stray ++
      decodeTolerant stray (rest.drop (brokenLength b rest)) := by
    rw [← decodeTolerant_continues hcontinues, List.take_append_drop]
  rw [decodeTolerant_of_error h, hrest, List.flatMap_cons, List.append_assoc]

/-! ### Surrogates for bytes -/

/-- The surrogate that stands for a byte. -/
def escape (b : UInt8) : CodePoint :=
  ⟨0xDC00 + b.toNat, by have := b.toNat_lt; omega⟩

/-- Bytes and the text they are read as: from the left, the character that the bytes start with, or
else a surrogate for the first of them. -/
inductive Escapes : List UInt8 → List CodePoint → Prop where
  | nil : Escapes [] []
  | char {bs : List UInt8} {cs : List CodePoint} (c : Char) : Escapes bs cs →
      Escapes (String.utf8EncodeChar c ++ bs) (CodePoint.ofChar c :: cs)
  | byte {b : UInt8} {bs : List UInt8} {cs : List CodePoint} :
      (∀ c, ¬String.utf8EncodeChar c <+: b :: bs) → Escapes bs cs → Escapes (b :: bs) (escape b :: cs)

def decodeEscaping (bytes : List UInt8) : List CodePoint := decodeTolerant (fun b => [escape b]) bytes

theorem exists_decodeChar_iff :
    (∃ c rest', decodeChar b rest = .ok (c, rest')) ↔ ∃ c, String.utf8EncodeChar c <+: b :: rest := by
  constructor
  · rintro ⟨c, rest', h⟩
    exact ⟨c, rest', (eq_encodeChar_of_decodeChar h).symm⟩
  · rintro ⟨c, rest', h⟩
    obtain ⟨b', bs, hencode, hdecode⟩ := decodeChar_encodeChar c rest'
    rw [hencode] at h
    cases h
    exact ⟨c, rest', hdecode⟩

theorem decodeEscaping_char (c : Char) (bs : List UInt8) :
    decodeEscaping (String.utf8EncodeChar c ++ bs) = CodePoint.ofChar c :: decodeEscaping bs := by
  have hone : String.utf8EncodeChar c = encode [c] := by simp [encode]
  rw [hone, decodeEscaping, decodeTolerant_encode_append]
  rfl

theorem decodeEscaping_byte (h : ∀ c, ¬String.utf8EncodeChar c <+: b :: rest) :
    decodeEscaping (b :: rest) = escape b :: decodeEscaping rest := by
  cases hdecode : decodeChar b rest with
  | ok found =>
    obtain ⟨c, hc⟩ := exists_decodeChar_iff.mp ⟨found.1, found.2, hdecode⟩
    exact absurd hc (h c)
  | error reason => exact decodeTolerant_of_stuck hdecode

theorem escapes_decodeEscaping (bs : List UInt8) : Escapes bs (decodeEscaping bs) := by
  induction hlength : bs.length using Nat.strongRecOn generalizing bs with
  | ind n ih =>
    cases bs with
    | nil =>
      rw [decodeEscaping, decodeTolerant]
      exact .nil
    | cons b rest =>
      subst hlength
      by_cases hstarts : ∃ c, String.utf8EncodeChar c <+: b :: rest
      · obtain ⟨c, tail, htail⟩ := hstarts
        have hpos := c.utf8Size_pos
        rw [← htail, decodeEscaping_char]
        refine .char c (ih tail.length ?_ tail rfl)
        rw [← htail, List.length_append, String.length_utf8EncodeChar]
        omega
      · have hnone := not_exists.mp hstarts
        rw [decodeEscaping_byte hnone]
        exact .byte hnone (ih rest.length (Nat.lt_succ_self _) rest rfl)

theorem escapes_iff {bs : List UInt8} {cs : List CodePoint} :
    Escapes bs cs ↔ cs = decodeEscaping bs := by
  constructor
  · intro h
    induction h with
    | nil =>
      rw [decodeEscaping, decodeTolerant]
    | char c _ ih => rw [decodeEscaping_char, ih]
    | byte hnone _ ih => rw [decodeEscaping_byte hnone, ih]
  · rintro rfl
    exact escapes_decodeEscaping bs

section Encoding

variable {bytes? : CodePoint → Option (List UInt8)} {s : List CodePoint} {bs cs : List UInt8}

theorem encodeBy_cons {x : CodePoint} (hx : bytes? x = some bs) (hs : encodeBy bytes? s = some cs) :
    encodeBy bytes? (x :: s) = some (bs ++ cs) := by
  unfold encodeBy at *
  obtain ⟨pieces, hpieces, rfl⟩ := Option.map_eq_some_iff.mp hs
  simp [hx, hpieces]

theorem escapedBytes?_escape (h : 0x80 ≤ b.toNat) : escapedBytes? (escape b) = some [b] := by
  have hlt := b.toNat_lt
  have hval : (escape b).val = 0xDC00 + b.toNat := rfl
  have hsurrogate : ¬(escape b).val.isValidChar := by
    unfold Nat.isValidChar
    omega
  rw [escapedBytes?, CodePoint.toChar?, dif_neg hsurrogate]
  dsimp only
  rw [if_pos (by omega), hval, Nat.add_sub_cancel_left, UInt8.ofNat_toNat]

/-- What was read with surrogates for bytes is written as the same bytes. -/
theorem Escapes.encodeBy (h : Escapes bs s) : encodeBy escapedBytes? s = some bs := by
  induction h with
  | nil => rfl
  | char c _ ih =>
    have hc : escapedBytes? (CodePoint.ofChar c) = some (String.utf8EncodeChar c) := by
      simp [escapedBytes?]
    exact encodeBy_cons hc ih
  | @byte b bs cs hnone _ ih =>
    have hhigh : 0x80 ≤ b.toNat := by
      by_contra hascii
      apply hnone (Char.ofNat b.toNat)
      rw [encodeChar_one (Nat.lt_of_not_le hascii)]
      exact List.prefix_append [b] bs
    exact encodeBy_cons (escapedBytes?_escape hhigh) ih

theorem encodeBy_isSome (h : ∀ x ∈ s, (bytes? x).isSome) : ∃ bs, encodeBy bytes? s = some bs := by
  induction s with
  | nil => exact ⟨[], rfl⟩
  | cons x s ih =>
    obtain ⟨hx, hs⟩ := List.forall_mem_cons.mp h
    obtain ⟨bs, hbs⟩ := Option.isSome_iff_exists.mp hx
    obtain ⟨cs, hcs⟩ := ih hs
    exact ⟨bs ++ cs, encodeBy_cons hbs hcs⟩

/-- A code point is a character or a surrogate, and both can be written. -/
theorem isSome_passedBytes? (x : CodePoint) : (passedBytes? x).isSome := by
  unfold passedBytes?
  cases hchar : x.toChar? with
  | some ch => rfl
  | none => simp [isSurrogate_of_toChar?_eq_none hchar]

theorem encodeAny_decodeEscaping (bs : List UInt8) : encodeAny (decodeEscaping bs) = some bs := by
  rw [encodeAny, (escapes_decodeEscaping bs).encodeBy]

theorem exists_encodeAny (s : List CodePoint) : ∃ bs, encodeAny s = some bs := by
  unfold encodeAny
  split
  · exact ⟨_, rfl⟩
  · exact encodeBy_isSome fun x _ => isSome_passedBytes? x

end Encoding

end SourceUnit.Utf8
