import SourceUnit.Text.Utf8

/-! Decoding undoes encoding and reads nothing else. Byte offsets at the ends of characters count
characters. -/
namespace SourceUnit.Utf8

/-! ### Leading bytes -/

private theorem toNat_byte {n : Nat} (h : n < 256) : (UInt8.ofNat n).toNat = n := by
  simp [UInt8.toNat_ofNat', Nat.mod_eq_of_lt h]

theorem not_lt_of_toNat {b low : UInt8} {n : Nat} (h : n ≤ b.toNat) (hlow : low.toNat ≤ n) :
    ¬b < low :=
  UInt8.not_lt.mpr (UInt8.le_iff_toNat_le.mpr (Nat.le_trans hlow h))

theorem lead?_one {b : UInt8} (h : b.toNat < 0x80) : lead? b = some ⟨0, 0, 0, b.toNat⟩ := by
  unfold lead?
  rw [if_pos (UInt8.lt_iff_toNat_lt.mpr h)]

theorem lead?_two {b : UInt8} (hlow : 0xC2 ≤ b.toNat) (hhigh : b.toNat < 0xE0) :
    lead? b = some ⟨1, 0x80, 0xBF, b.toNat - 0xC0⟩ := by
  have h1 : ¬b < 0x80 := not_lt_of_toNat hlow (by decide)
  have h2 : ¬b < 0xC2 := not_lt_of_toNat hlow (by decide)
  have h3 : b < 0xE0 := UInt8.lt_iff_toNat_lt.mpr hhigh
  simp only [lead?, h1, h2, h3, if_true, if_false]

/-- Three bytes: the first continuation byte leaves out overlong forms and surrogates. -/
theorem lead?_three {b : UInt8} (hlow : 0xE0 ≤ b.toNat) (hhigh : b.toNat < 0xF0) :
    ∃ low high, lead? b = some ⟨2, low, high, b.toNat - 0xE0⟩ ∧
      low.toNat = (if b.toNat = 0xE0 then 0xA0 else 0x80) ∧
      high.toNat = (if b.toNat = 0xED then 0x9F else 0xBF) := by
  have h1 : ¬b < 0x80 := not_lt_of_toNat hlow (by decide)
  have h2 : ¬b < 0xC2 := not_lt_of_toNat hlow (by decide)
  have h3 : ¬b < 0xE0 := not_lt_of_toNat hlow (by decide)
  by_cases he0 : b = 0xE0
  · subst he0
    exact ⟨0xA0, 0xBF, rfl, rfl, rfl⟩
  · by_cases hed : b = 0xED
    · subst hed
      exact ⟨0x80, 0x9F, rfl, rfl, rfl⟩
    · have h4 : b < 0xF0 := UInt8.lt_iff_toNat_lt.mpr hhigh
      have hne0 : ¬b.toNat = 0xE0 := fun h => he0 (UInt8.toNat_inj.mp h)
      have hned : ¬b.toNat = 0xED := fun h => hed (UInt8.toNat_inj.mp h)
      refine ⟨0x80, 0xBF, ?_, by simp [hne0], by simp [hned]⟩
      simp only [lead?, h1, h2, h3, he0, hed, h4, if_true, if_false]

/-- Four bytes: the first continuation byte leaves out overlong forms and what lies too high. -/
theorem lead?_four {b : UInt8} (hlow : 0xF0 ≤ b.toNat) (hhigh : b.toNat < 0xF5) :
    ∃ low high, lead? b = some ⟨3, low, high, b.toNat - 0xF0⟩ ∧
      low.toNat = (if b.toNat = 0xF0 then 0x90 else 0x80) ∧
      high.toNat = (if b.toNat = 0xF4 then 0x8F else 0xBF) := by
  have h1 : ¬b < 0x80 := not_lt_of_toNat hlow (by decide)
  have h2 : ¬b < 0xC2 := not_lt_of_toNat hlow (by decide)
  have h3 : ¬b < 0xE0 := not_lt_of_toNat hlow (by decide)
  have h4 : ¬b < 0xF0 := not_lt_of_toNat hlow (by decide)
  have he0 : ¬b = 0xE0 := fun h => by subst h; simp at hlow
  have hed : ¬b = 0xED := fun h => by subst h; simp at hlow
  by_cases hf0 : b = 0xF0
  · subst hf0
    exact ⟨0x90, 0xBF, rfl, rfl, rfl⟩
  · by_cases hf4 : b = 0xF4
    · subst hf4
      exact ⟨0x80, 0x8F, rfl, rfl, rfl⟩
    · have hnf0 : ¬b.toNat = 0xF0 := fun h => hf0 (UInt8.toNat_inj.mp h)
      have hnf4 : ¬b.toNat = 0xF4 := fun h => hf4 (UInt8.toNat_inj.mp h)
      have h5 : b < 0xF4 := by simp [UInt8.lt_iff_toNat_lt]; omega
      refine ⟨0x80, 0xBF, ?_, by simp [hnf0], by simp [hnf4]⟩
      simp only [lead?, h1, h2, h3, h4, he0, hed, hf0, hf4, h5, if_true, if_false]

/-! ### One character -/

theorem follow_cons {n : Nat} {low high b : UInt8} {value : Nat} {rest : List UInt8}
    (hlow : low.toNat ≤ b.toNat) (hhigh : b.toNat ≤ high.toNat) :
    follow (n + 1) low high value (b :: rest) =
      follow n 0x80 0xBF (value * 64 + (b.toNat - 0x80)) rest := by
  rw [follow, if_pos ⟨UInt8.le_iff_toNat_le.mpr hlow, UInt8.le_iff_toNat_le.mpr hhigh⟩]

/-- A continuation byte contributes its six low bits. -/
theorem follow_tail {n value bits : Nat} {rest : List UInt8} (h : bits < 64) :
    follow (n + 1) 0x80 0xBF value (UInt8.ofNat (bits + 0x80) :: rest) =
      follow n 0x80 0xBF (value * 64 + bits) rest := by
  have hbyte : (UInt8.ofNat (bits + 0x80)).toNat = bits + 0x80 := toNat_byte (by omega)
  have hlow : (0x80 : UInt8).toNat ≤ (UInt8.ofNat (bits + 0x80)).toNat := by
    rw [hbyte]
    exact Nat.le_add_left _ _
  have hhigh : (UInt8.ofNat (bits + 0x80)).toNat ≤ (0xBF : UInt8).toNat := by
    rw [hbyte]
    change bits + 0x80 ≤ 191
    omega
  rw [follow_cons hlow hhigh, hbyte, Nat.add_sub_cancel]

theorem decodeChar_one {v : Nat} (h : v ≤ 0x7f) (rest : List UInt8) :
    decodeChar (UInt8.ofNat v) rest = .ok (Char.ofNat v, rest) := by
  have hb : (UInt8.ofNat v).toNat = v := toNat_byte (by omega)
  simp only [decodeChar, lead?_one (b := UInt8.ofNat v) (by omega), follow, hb]

theorem decodeChar_two {v : Nat} (hlow : 0x7f < v) (hhigh : v ≤ 0x7ff) (rest : List UInt8) :
    decodeChar (UInt8.ofNat (v / 64 % 0x20 + 0xc0)) (UInt8.ofNat (v % 0x40 + 0x80) :: rest) =
      .ok (Char.ofNat v, rest) := by
  have hb : (UInt8.ofNat (v / 64 % 0x20 + 0xc0)).toNat = v / 64 + 0xc0 := by
    rw [toNat_byte (by omega)]
    omega
  have hlead := lead?_two (b := UInt8.ofNat (v / 64 % 0x20 + 0xc0)) (by omega) (by omega)
  have hvalue : (v / 64 + 0xc0 - 0xC0) * 64 + v % 0x40 = v := by omega
  rw [decodeChar, hlead]
  dsimp only
  rw [follow_tail (Nat.mod_lt v (by omega)), follow, hb, hvalue]

theorem decodeChar_three {v : Nat} (hlow : 0x7ff < v) (hhigh : v ≤ 0xffff)
    (hvalid : v < 0xD800 ∨ 0xDFFF < v) (rest : List UInt8) :
    decodeChar (UInt8.ofNat (v / 4096 % 0x10 + 0xe0))
        (UInt8.ofNat (v / 64 % 0x40 + 0x80) :: UInt8.ofNat (v % 0x40 + 0x80) :: rest) =
      .ok (Char.ofNat v, rest) := by
  have hb : (UInt8.ofNat (v / 4096 % 0x10 + 0xe0)).toNat = v / 4096 + 0xe0 := by
    rw [toNat_byte (by omega)]
    omega
  have hb' : (UInt8.ofNat (v / 64 % 0x40 + 0x80)).toNat = v / 64 % 0x40 + 0x80 :=
    toNat_byte (by omega)
  obtain ⟨low, high, hlead, hl, hh⟩ :=
    lead?_three (b := UInt8.ofNat (v / 4096 % 0x10 + 0xe0)) (by omega) (by omega)
  rw [hb] at hl hh
  have hvalue : ((v / 4096 + 0xe0 - 0xE0) * 64 + (v / 64 % 0x40 + 0x80 - 0x80)) * 64 + v % 0x40 = v := by
    omega
  rw [decodeChar, hlead]
  dsimp only
  rw [follow_cons (by split at hl <;> omega) (by split at hh <;> omega),
    follow_tail (Nat.mod_lt v (by omega)), follow, hb, hb', hvalue]

theorem decodeChar_four {v : Nat} (hlow : 0xffff < v) (hhigh : v < 0x110000) (rest : List UInt8) :
    decodeChar (UInt8.ofNat (v / 262144 % 0x08 + 0xf0))
        (UInt8.ofNat (v / 4096 % 0x40 + 0x80) :: UInt8.ofNat (v / 64 % 0x40 + 0x80) ::
          UInt8.ofNat (v % 0x40 + 0x80) :: rest) =
      .ok (Char.ofNat v, rest) := by
  have hb : (UInt8.ofNat (v / 262144 % 0x08 + 0xf0)).toNat = v / 262144 + 0xf0 := by
    rw [toNat_byte (by omega)]
    omega
  have hb' : (UInt8.ofNat (v / 4096 % 0x40 + 0x80)).toNat = v / 4096 % 0x40 + 0x80 :=
    toNat_byte (by omega)
  obtain ⟨low, high, hlead, hl, hh⟩ :=
    lead?_four (b := UInt8.ofNat (v / 262144 % 0x08 + 0xf0)) (by omega) (by omega)
  rw [hb] at hl hh
  have hvalue : (((v / 262144 + 0xf0 - 0xF0) * 64 + (v / 4096 % 0x40 + 0x80 - 0x80)) * 64 +
      v / 64 % 0x40) * 64 + v % 0x40 = v := by
    omega
  rw [decodeChar, hlead]
  dsimp only
  rw [follow_cons (by split at hl <;> omega) (by split at hh <;> omega),
    follow_tail (Nat.mod_lt (v / 64) (by omega)), follow_tail (Nat.mod_lt v (by omega)), follow,
    hb, hb', hvalue]

/-- What encodes a character is read back as that character, whatever follows. -/
theorem decodeChar_encodeChar (c : Char) (rest : List UInt8) :
    ∃ b bs, String.utf8EncodeChar c = b :: bs ∧ decodeChar b (bs ++ rest) = .ok (c, rest) := by
  have hvalid : c.val.toNat < 0xD800 ∨ 0xDFFF < c.val.toNat ∧ c.val.toNat < 0x110000 := c.valid
  have hchar : Char.ofNat c.val.toNat = c := Char.ofNat_toNat c
  unfold String.utf8EncodeChar
  dsimp only
  generalize c.val.toNat = v at hvalid hchar ⊢
  rw [← hchar]
  split
  · rename_i h1
    exact ⟨_, _, rfl, decodeChar_one h1 rest⟩
  · split
    · rename_i h1 h2
      exact ⟨_, _, rfl, decodeChar_two (by omega) h2 rest⟩
    · split
      · rename_i h1 h2 h3
        exact ⟨_, _, rfl, decodeChar_three (by omega) h3 (by omega) rest⟩
      · rename_i h1 h2 h3
        exact ⟨_, _, rfl, decodeChar_four (by omega) (by omega) rest⟩

/-! ### Whole texts -/

@[simp] theorem encode_nil : encode [] = [] := rfl

@[simp] theorem encode_append (s t : List Char) : encode (s ++ t) = encode s ++ encode t := by
  simp [encode]

theorem decodeFrom_of_decodeChar {position : Nat} {read : List Char} {b : UInt8}
    {rest rest' : List UInt8} {c : Char} (h : decodeChar b rest = .ok (c, rest')) :
    decodeFrom position read (b :: rest) = decodeFrom (position + c.utf8Size) (c :: read) rest' := by
  rw [decodeFrom]
  split
  · rename_i hchar
    rw [h] at hchar
    cases hchar
  · rename_i hchar
    rw [h] at hchar
    cases hchar
    rfl

theorem decodeFrom_encode (position : Nat) (read s : List Char) :
    decodeFrom position read (encode s) = .ok (read.reverse ++ s) := by
  induction s generalizing position read with
  | nil =>
    rw [encode_nil, decodeFrom]
    simp
  | cons c s ih =>
    obtain ⟨b, bs, hencode, hdecode⟩ := decodeChar_encodeChar c (encode s)
    have hbytes : encode (c :: s) = b :: (bs ++ encode s) := by
      rw [encode, List.flatMap_cons, hencode]
      rfl
    rw [hbytes, decodeFrom_of_decodeChar hdecode, ih]
    simp

@[simp] theorem decode_encode (s : List Char) : decode (encode s) = .ok s :=
  decodeFrom_encode 0 [] s

/-! ### Only what encodes a text is read -/

theorem lead?_none {b : UInt8} (h : 0x80 ≤ b.toNat ∧ b.toNat < 0xC2 ∨ 0xF5 ≤ b.toNat) :
    lead? b = none := by
  rcases h with ⟨hlow, hhigh⟩ | hlow
  · have h1 : ¬b < 0x80 := not_lt_of_toNat hlow (by decide)
    have h2 : b < 0xC2 := UInt8.lt_iff_toNat_lt.mpr hhigh
    simp only [lead?, h1, h2, if_true, if_false]
  · have h1 : ¬b < 0x80 := not_lt_of_toNat hlow (by decide)
    have h2 : ¬b < 0xC2 := not_lt_of_toNat hlow (by decide)
    have h3 : ¬b < 0xE0 := not_lt_of_toNat hlow (by decide)
    have h4 : ¬b < 0xF0 := not_lt_of_toNat hlow (by decide)
    have h5 : ¬b < 0xF4 := not_lt_of_toNat hlow (by decide)
    have hne {v : UInt8} (hv : v.toNat < 0xF5) : ¬b = v := fun heq => by
      rw [heq] at hlow
      omega
    simp only [lead?, h1, h2, h3, h4, h5, hne (v := 0xE0) (by decide), hne (v := 0xED) (by decide),
      hne (v := 0xF0) (by decide), hne (v := 0xF4) (by decide), if_false]

theorem eq_of_follow_zero {low high : UInt8} {value v : Nat} {bs rest : List UInt8}
    (h : follow 0 low high value bs = .ok (v, rest)) : v = value ∧ rest = bs := by
  simp only [follow, Except.ok.injEq, Prod.mk.injEq] at h
  exact ⟨h.1.symm, h.2.symm⟩

theorem exists_of_follow {n : Nat} {low high : UInt8} {value v : Nat} {bs rest : List UInt8}
    (h : follow (n + 1) low high value bs = .ok (v, rest)) :
    ∃ b tail, bs = b :: tail ∧ low.toNat ≤ b.toNat ∧ b.toNat ≤ high.toNat ∧
      follow n 0x80 0xBF (value * 64 + (b.toNat - 0x80)) tail = .ok (v, rest) := by
  cases bs with
  | nil => simp [follow] at h
  | cons b tail =>
    rw [follow] at h
    split at h
    · rename_i hrange
      exact ⟨b, tail, rfl, UInt8.le_iff_toNat_le.mp hrange.1, UInt8.le_iff_toNat_le.mp hrange.2, h⟩
    · cases h

/-- A continuation byte after the first one lies between 80 and BF. -/
theorem exists_of_follow_tail {n value v : Nat} {bs rest : List UInt8}
    (h : follow (n + 1) 0x80 0xBF value bs = .ok (v, rest)) :
    ∃ b tail, bs = b :: tail ∧ 0x80 ≤ b.toNat ∧ b.toNat < 0xC0 ∧
      follow n 0x80 0xBF (value * 64 + (b.toNat - 0x80)) tail = .ok (v, rest) := by
  obtain ⟨b, tail, hbs, hlow, hhigh, hrest⟩ := exists_of_follow h
  change 128 ≤ b.toNat at hlow
  change b.toNat ≤ 191 at hhigh
  exact ⟨b, tail, hbs, hlow, by omega, hrest⟩

private theorem toNat_val_ofNat {v : Nat} (h : v < 0xD800 ∨ 0xDFFF < v ∧ v < 0x110000) :
    (Char.ofNat v).val.toNat = v := by
  rw [Char.ofNat, dif_pos h]
  rfl

private theorem byte_eq {n : Nat} {b : UInt8} (h : n = b.toNat) : UInt8.ofNat n = b := by
  rw [h, UInt8.ofNat_toNat]

theorem encodeChar_one {b : UInt8} (hb : b.toNat < 0x80) :
    String.utf8EncodeChar (Char.ofNat b.toNat) = [b] := by
  have hval := toNat_val_ofNat (v := b.toNat) (by omega)
  simp only [String.utf8EncodeChar, hval]
  rw [if_pos (by omega), byte_eq rfl]

theorem encodeChar_two {a b : UInt8} (ha : 0xC2 ≤ a.toNat) (ha' : a.toNat < 0xE0)
    (hb : 0x80 ≤ b.toNat) (hb' : b.toNat < 0xC0) :
    String.utf8EncodeChar (Char.ofNat ((a.toNat - 0xC0) * 64 + (b.toNat - 0x80))) = [a, b] := by
  generalize hv : (a.toNat - 0xC0) * 64 + (b.toNat - 0x80) = v
  have hval := toNat_val_ofNat (v := v) (by omega)
  simp only [String.utf8EncodeChar, hval]
  rw [if_neg (by omega), if_pos (by omega), byte_eq (b := a) (by omega),
    byte_eq (b := b) (by omega)]

/-- The value is neither overlong nor a surrogate. -/
theorem encodeChar_three {a b c : UInt8} (ha : 0xE0 ≤ a.toNat) (ha' : a.toNat < 0xF0)
    (hb : 0x80 ≤ b.toNat) (hb' : b.toNat < 0xC0) (hlong : a.toNat = 0xE0 → 0xA0 ≤ b.toNat)
    (hsurrogate : a.toNat = 0xED → b.toNat < 0xA0) (hc : 0x80 ≤ c.toNat) (hc' : c.toNat < 0xC0) :
    String.utf8EncodeChar
      (Char.ofNat (((a.toNat - 0xE0) * 64 + (b.toNat - 0x80)) * 64 + (c.toNat - 0x80))) =
        [a, b, c] := by
  generalize hv : ((a.toNat - 0xE0) * 64 + (b.toNat - 0x80)) * 64 + (c.toNat - 0x80) = v
  have hval := toNat_val_ofNat (v := v) (by omega)
  simp only [String.utf8EncodeChar, hval]
  rw [if_neg (by omega), if_neg (by omega), if_pos (by omega), byte_eq (b := a) (by omega),
    byte_eq (b := b) (by omega), byte_eq (b := c) (by omega)]

/-- The value is neither overlong nor above the last code point. -/
theorem encodeChar_four {a b c d : UInt8} (ha : 0xF0 ≤ a.toNat) (ha' : a.toNat < 0xF5)
    (hb : 0x80 ≤ b.toNat) (hb' : b.toNat < 0xC0) (hlong : a.toNat = 0xF0 → 0x90 ≤ b.toNat)
    (hhigh : a.toNat = 0xF4 → b.toNat < 0x90) (hc : 0x80 ≤ c.toNat) (hc' : c.toNat < 0xC0)
    (hd : 0x80 ≤ d.toNat) (hd' : d.toNat < 0xC0) :
    String.utf8EncodeChar
      (Char.ofNat ((((a.toNat - 0xF0) * 64 + (b.toNat - 0x80)) * 64 + (c.toNat - 0x80)) * 64 +
        (d.toNat - 0x80))) = [a, b, c, d] := by
  generalize hv : (((a.toNat - 0xF0) * 64 + (b.toNat - 0x80)) * 64 + (c.toNat - 0x80)) * 64 +
    (d.toNat - 0x80) = v
  have hval := toNat_val_ofNat (v := v) (by omega)
  simp only [String.utf8EncodeChar, hval]
  rw [if_neg (by omega), if_neg (by omega), if_neg (by omega), byte_eq (b := a) (by omega),
    byte_eq (b := b) (by omega), byte_eq (b := c) (by omega), byte_eq (b := d) (by omega)]

theorem exists_of_decodeChar {a low high : UInt8} {n bits : Nat} {bs rest : List UInt8} {ch : Char}
    (hlead : lead? a = some ⟨n, low, high, bits⟩) (h : decodeChar a bs = .ok (ch, rest)) :
    ∃ v, ch = Char.ofNat v ∧ follow n low high bits bs = .ok (v, rest) := by
  unfold decodeChar at h
  rw [hlead] at h
  dsimp only at h
  split at h
  · rename_i hfollow
    cases h
    exact ⟨_, rfl, hfollow⟩
  · cases h

/-- A character is read only from the bytes that encode it. -/
theorem eq_encodeChar_of_decodeChar {a : UInt8} {bs rest : List UInt8} {ch : Char}
    (h : decodeChar a bs = .ok (ch, rest)) : a :: bs = String.utf8EncodeChar ch ++ rest := by
  -- the leading byte tells how many bytes are to follow
  by_cases hnone : 0x80 ≤ a.toNat ∧ a.toNat < 0xC2 ∨ 0xF5 ≤ a.toNat
  · simp [decodeChar, lead?_none hnone] at h
  by_cases h1 : a.toNat < 0x80
  · obtain ⟨v, rfl, hfollow⟩ := exists_of_decodeChar (lead?_one h1) h
    obtain ⟨hvalue, hrest⟩ := eq_of_follow_zero hfollow
    rw [hvalue, hrest, encodeChar_one h1]
    rfl
  by_cases h2 : a.toNat < 0xE0
  · obtain ⟨v, rfl, hfollow⟩ := exists_of_decodeChar (lead?_two (by omega) h2) h
    obtain ⟨b, tail, rfl, hb, hb', hend⟩ := exists_of_follow_tail hfollow
    obtain ⟨hvalue, hrest⟩ := eq_of_follow_zero hend
    rw [hvalue, hrest, encodeChar_two (by omega) h2 hb hb']
    rfl
  by_cases h3 : a.toNat < 0xF0
  · obtain ⟨low, high, hlead, hlow, hhigh⟩ := lead?_three (b := a) (by omega) h3
    obtain ⟨v, rfl, hfollow⟩ := exists_of_decodeChar hlead h
    obtain ⟨b, tail, rfl, hb, hb', hnext⟩ := exists_of_follow hfollow
    obtain ⟨c, tail, rfl, hc, hc', hend⟩ := exists_of_follow_tail hnext
    obtain ⟨hvalue, hrest⟩ := eq_of_follow_zero hend
    rw [hvalue, hrest, encodeChar_three (by omega) h3 (by split at hlow <;> omega)
      (by split at hhigh <;> omega) (by split at hlow <;> omega) (by split at hhigh <;> omega)
      hc hc']
    rfl
  · obtain ⟨low, high, hlead, hlow, hhigh⟩ := lead?_four (b := a) (by omega) (by omega)
    obtain ⟨v, rfl, hfollow⟩ := exists_of_decodeChar hlead h
    obtain ⟨b, tail, rfl, hb, hb', hnext⟩ := exists_of_follow hfollow
    obtain ⟨c, tail, rfl, hc, hc', hnext⟩ := exists_of_follow_tail hnext
    obtain ⟨d, tail, rfl, hd, hd', hend⟩ := exists_of_follow_tail hnext
    obtain ⟨hvalue, hrest⟩ := eq_of_follow_zero hend
    rw [hvalue, hrest, encodeChar_four (by omega) (by omega) (by split at hlow <;> omega)
      (by split at hhigh <;> omega) (by split at hlow <;> omega) (by split at hhigh <;> omega)
      hc hc' hd hd']
    rfl

theorem eq_encode_of_decodeFrom {position : Nat} {read s : List Char} {bs : List UInt8}
    (h : decodeFrom position read bs = .ok s) : ∃ t, s = read.reverse ++ t ∧ bs = encode t := by
  fun_induction decodeFrom position read bs with
  | case1 position read =>
    cases h
    exact ⟨[], by simp, rfl⟩
  | case2 position read b rest reason hchar => cases h
  | case3 position read b rest c rest' hchar ih =>
    obtain ⟨t, hs, hrest⟩ := ih h
    refine ⟨c :: t, by simpa using hs, ?_⟩
    rw [eq_encodeChar_of_decodeChar hchar, hrest, encode, encode, List.flatMap_cons]

/-- Decoding succeeds exactly on the bytes that encode a text, and gives that text. -/
theorem decode_eq_ok_iff {bs : List UInt8} {s : List Char} : decode bs = .ok s ↔ bs = encode s := by
  constructor
  · intro h
    obtain ⟨t, rfl, hbs⟩ := eq_encode_of_decodeFrom h
    exact hbs
  · rintro rfl
    exact decode_encode s

/-! ### Code points -/

theorem ofChar_eq_of_toChar? {c : CodePoint} {ch : Char} (h : c.toChar? = some ch) :
    c = CodePoint.ofChar ch := by
  unfold CodePoint.toChar? at h
  by_cases hvalid : c.val.isValidChar
  · rw [dif_pos hvalid] at h
    cases h
    rfl
  · rw [dif_neg hvalid] at h
    cases h

@[simp] theorem toChar?_ofChar (ch : Char) : (CodePoint.ofChar ch).toChar? = some ch := by
  have hvalid : (CodePoint.ofChar ch).val.isValidChar := ch.valid
  rw [CodePoint.toChar?, dif_pos hvalid]
  rfl

theorem eq_map_of_charsFrom {index : Nat} {read s : List Char} {cs : List CodePoint}
    (h : charsFrom index read cs = .ok s) :
    ∃ t, s = read.reverse ++ t ∧ cs = t.map CodePoint.ofChar := by
  fun_induction charsFrom index read cs with
  | case1 index read =>
    cases h
    exact ⟨[], by simp, rfl⟩
  | case2 index read c cs ch hchar ih =>
    obtain ⟨t, hs, hcs⟩ := ih h
    refine ⟨ch :: t, by simpa using hs, ?_⟩
    rw [ofChar_eq_of_toChar? hchar, hcs, List.map_cons]
  | case3 index read c cs hchar => cases h

theorem charsFrom_map (index : Nat) (read s : List Char) :
    charsFrom index read (s.map CodePoint.ofChar) = .ok (read.reverse ++ s) := by
  induction s generalizing index read with
  | nil => simp [charsFrom]
  | cons ch s ih =>
    rw [List.map_cons, charsFrom, toChar?_ofChar]
    simp [ih]

/-- Code points are taken as a text exactly if all of them are characters. -/
theorem chars_eq_ok_iff {cs : List CodePoint} {s : List Char} :
    chars cs = .ok s ↔ cs = s.map CodePoint.ofChar := by
  constructor
  · intro h
    obtain ⟨t, rfl, hcs⟩ := eq_map_of_charsFrom h
    exact hcs
  · rintro rfl
    exact charsFrom_map 0 [] s

/-! ### Characters and bytes -/

/-- How many bytes a text takes. -/
def byteLength (s : List Char) : Nat := (encode s).length

@[simp] theorem byteLength_nil : byteLength [] = 0 := rfl

@[simp] theorem byteLength_cons (c : Char) (s : List Char) :
    byteLength (c :: s) = c.utf8Size + byteLength s := by
  simp [byteLength, encode]

@[simp] theorem byteLength_append (s t : List Char) :
    byteLength (s ++ t) = byteLength s + byteLength t := by
  simp [byteLength]

theorem drop_encode (s : List Char) (k : Nat) :
    (encode s).drop (byteLength (s.take k)) = encode (s.drop k) := by
  conv => lhs; rw [← List.take_append_drop k s, encode_append]
  simp [byteLength]

theorem take_encode (s : List Char) (k : Nat) :
    (encode s).take (byteLength (s.take k)) = encode (s.take k) := by
  conv => lhs; rw [← List.take_append_drop k s, encode_append]
  simp [byteLength]

/-- How many characters of a text lie whole within its first bytes. -/
def charsWithin : List Char → (bytes : Nat) → Nat
  | [], _ => 0
  | c :: cs, n => if c.utf8Size ≤ n then charsWithin cs (n - c.utf8Size) + 1 else 0

/-- The bytes of the first characters hold exactly these characters. -/
theorem charsWithin_byteLength_take {s : List Char} {k : Nat} (h : k ≤ s.length) :
    charsWithin s (byteLength (s.take k)) = k := by
  induction s generalizing k with
  | nil =>
    rw [charsWithin]
    exact (Nat.le_zero.mp h).symm
  | cons c s ih =>
    cases k with
    | zero =>
      have hsize : ¬c.utf8Size ≤ 0 := Nat.not_le.mpr c.utf8Size_pos
      simp [charsWithin, hsize]
    | succ k =>
      rw [charsWithin, List.take_succ_cons, byteLength_cons, if_pos (Nat.le_add_right _ _),
        Nat.add_sub_cancel_left, ih (Nat.le_of_succ_le_succ h)]

theorem byteLength_take_le (s : List Char) (k : Nat) : byteLength (s.take k) ≤ byteLength s := by
  conv => rhs; rw [← List.take_append_drop k s, byteLength_append]
  exact Nat.le_add_right _ _

/-- More characters take more bytes. -/
theorem byteLength_take_lt {s : List Char} {k m : Nat} (hkm : k < m) (hm : m ≤ s.length) :
    byteLength (s.take k) < byteLength (s.take m) := by
  induction s generalizing k m with
  | nil => exact absurd (Nat.lt_of_lt_of_le hkm hm) (Nat.not_lt_zero k)
  | cons c s ih =>
    obtain ⟨m, rfl⟩ := Nat.exists_eq_add_of_lt hkm
    cases k with
    | zero =>
      rw [List.take_zero, byteLength_nil, List.take_succ_cons, byteLength_cons]
      exact Nat.add_pos_left c.utf8Size_pos _
    | succ k =>
      rw [List.take_succ_cons, List.take_succ_cons, byteLength_cons, byteLength_cons]
      exact Nat.add_lt_add_left (ih (by omega) (Nat.le_of_succ_le_succ hm)) _

theorem byteLength_take_lt_iff {s : List Char} {k m : Nat} (hk : k ≤ s.length) (hm : m ≤ s.length) :
    byteLength (s.take k) < byteLength (s.take m) ↔ k < m := by
  constructor
  · intro hbytes
    rcases Nat.lt_trichotomy k m with hlt | rfl | hgt
    · exact hlt
    · exact absurd hbytes (Nat.lt_irrefl _)
    · exact absurd hbytes (Nat.lt_asymm (byteLength_take_lt hgt hk))
  · intro hlt
    exact byteLength_take_lt hlt hm

theorem byteLength_of_ascii {s : List Char} (h : ∀ c ∈ s, c.toNat < 128) :
    byteLength s = s.length := by
  induction s with
  | nil => rfl
  | cons c s ih =>
    have hsize : c.utf8Size = 1 := by
      rw [Char.utf8Size_eq_one_iff, UInt32.le_iff_toNat_le]
      exact Nat.le_of_lt_succ (h c List.mem_cons_self)
    rw [byteLength_cons, hsize, ih fun d hd => h d (List.mem_cons_of_mem c hd), List.length_cons,
      Nat.add_comm]

end SourceUnit.Utf8
