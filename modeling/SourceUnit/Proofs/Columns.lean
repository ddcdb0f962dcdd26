import SourceUnit.Proofs.TolerantUtf8

/-! Byte columns and character columns of a line. A byte column within the line counts the characters
that lie whole before it, whether the line has to be decoded or not. -/
namespace SourceUnit

namespace Utf8

theorem charsWithin_le_length (s : List Char) (n : Nat) : charsWithin s n ≤ s.length := by
  induction s generalizing n with
  | nil => exact Nat.le_refl 0
  | cons c s ih =>
    rw [charsWithin]
    split
    · exact Nat.succ_le_succ (ih _)
    · exact Nat.zero_le _

theorem byteLength_take_charsWithin_le (s : List Char) (n : Nat) :
    byteLength (s.take (charsWithin s n)) ≤ n := by
  induction s generalizing n with
  | nil => exact Nat.zero_le n
  | cons c s ih =>
    rw [charsWithin]
    split
    · have hrest := ih (n - c.utf8Size)
      rw [List.take_succ_cons, byteLength_cons]
      omega
    · exact Nat.zero_le n

theorem charsWithin_mono (s : List Char) {n m : Nat} (h : n ≤ m) :
    charsWithin s n ≤ charsWithin s m := by
  induction s generalizing n m with
  | nil => exact Nat.le_refl 0
  | cons c s ih =>
    by_cases hn : c.utf8Size ≤ n
    · have hm : c.utf8Size ≤ m := Nat.le_trans hn h
      rw [charsWithin, charsWithin, if_pos hn, if_pos hm]
      exact Nat.succ_le_succ (ih (Nat.sub_le_sub_right h _))
    · rw [charsWithin, if_neg hn]
      exact Nat.zero_le _

theorem isGreatest_charsWithin (s : List Char) (n : Nat) :
    IsGreatest {k | k ≤ s.length ∧ (encode (s.take k)).length ≤ n} (charsWithin s n) := by
  refine ⟨⟨charsWithin_le_length s n, byteLength_take_charsWithin_le s n⟩, ?_⟩
  rintro k ⟨hk, hbytes⟩
  rw [← charsWithin_byteLength_take hk]
  exact charsWithin_mono s hbytes

theorem charsWithin_eq {s : List Char} {k n : Nat} (hk : k < s.length)
    (hlow : byteLength (s.take k) ≤ n) (hhigh : n < byteLength (s.take (k + 1))) :
    charsWithin s n = k := by
  have hleast := charsWithin_mono s hlow
  rw [charsWithin_byteLength_take (Nat.le_of_lt hk)] at hleast
  have hbytes : byteLength (s.take (charsWithin s n)) < byteLength (s.take (k + 1)) :=
    Nat.lt_of_le_of_lt (byteLength_take_charsWithin_le s n) hhigh
  have hmost := (byteLength_take_lt_iff (charsWithin_le_length s n) hk).mp hbytes
  omega

theorem length_decodeIgnoring_take (s : List Char) (n : Nat) :
    (decodeIgnoring ((encode s).take n)).length = charsWithin s n := by
  rw [decodeIgnoring_take_encode, List.length_map, List.length_take,
    Nat.min_eq_left (charsWithin_le_length s n)]

theorem charsWithin_of_ascii {s : List Char} (h : ∀ c ∈ s, c.toNat < 128) {n : Nat}
    (hn : n ≤ s.length) : charsWithin s n = n := by
  have hbytes : byteLength (s.take n) = n := by
    rw [byteLength_of_ascii fun c hc => h c (List.mem_of_mem_take hc), List.length_take,
      Nat.min_eq_left hn]
  conv => lhs; rw [← hbytes]
  exact charsWithin_byteLength_take hn

end Utf8

namespace Buffer

theorem columnIn_eq {t : List Char} {o : Nat} (h : o ≤ Utf8.byteLength t) :
    columnIn (some t) o = Utf8.charsWithin t o := by
  simp only [columnIn]
  split
  · rename_i hascii
    have hchars : ∀ c ∈ t, c.toNat < 128 := fun c hc =>
      of_decide_eq_true (List.all_eq_true.mp hascii c hc)
    rw [Utf8.byteLength_of_ascii hchars] at h
    rw [Utf8.charsWithin_of_ascii hchars h]
  · rw [countFromStart, if_pos (Int.natCast_nonneg o), Int.toNat_natCast,
      Utf8.length_decodeIgnoring_take]

/-- The byte offset after some characters of a line is the column after these characters. -/
theorem columnIn_byteLength {t : List Char} {k : Nat} (h : k ≤ t.length) :
    columnIn (some t) (Utf8.byteLength (t.take k) : Int) = k := by
  rw [columnIn_eq (Utf8.byteLength_take_le t k), Utf8.charsWithin_byteLength_take h]

theorem charColumn_eq {b : Buffer} {n : Int} {t : List Char} (hline : b.line n = .ok (some t))
    {o : Nat} (h : o ≤ Utf8.byteLength t) : b.charColumn n o = .ok (Utf8.charsWithin t o : Int) := by
  simp only [charColumn, hline, columnIn_eq h]

/-- Within a line, the column of a byte offset is the largest number of characters whose bytes do not
reach past it; this is how many are read when the line is cut there and decoded. Columns grow with
offsets, an offset inside a character has that character's column, and the offset after some
characters has their number. -/
theorem charColumn_counts_whole_characters (b : Buffer) {n : Int} {t : List Char}
    (hline : b.line n = .ok (some t)) :
    (∀ o : Nat, o ≤ (Utf8.encode t).length → ∃ k : Nat, b.charColumn n o = .ok (k : Int) ∧
      IsGreatest {k | k ≤ t.length ∧ (Utf8.encode (t.take k)).length ≤ o} k ∧
      k = (Utf8.decodeIgnoring ((Utf8.encode t).take o)).length) ∧
    (∀ o o' : Nat, o ≤ o' → o' ≤ (Utf8.encode t).length → ∀ k k' : Int,
      b.charColumn n o = .ok k → b.charColumn n o' = .ok k' → k ≤ k') ∧
    (∀ k : Nat, k < t.length → ∀ o : Nat, (Utf8.encode (t.take k)).length ≤ o →
      o < (Utf8.encode (t.take (k + 1))).length → b.charColumn n o = .ok (k : Int)) ∧
    (∀ k : Nat, k ≤ t.length →
      b.charColumn n ((Utf8.encode (t.take k)).length : Nat) = .ok (k : Int)) := by
  refine ⟨?_, ?_, ?_, ?_⟩
  · intro o ho
    exact ⟨Utf8.charsWithin t o, charColumn_eq hline ho, Utf8.isGreatest_charsWithin t o,
      (Utf8.length_decodeIgnoring_take t o).symm⟩
  · intro o o' hle ho' k k' hk hk'
    rw [charColumn_eq hline (Nat.le_trans hle ho')] at hk
    rw [charColumn_eq hline ho'] at hk'
    cases hk
    cases hk'
    exact Int.ofNat_le.mpr (Utf8.charsWithin_mono t hle)
  · intro k hk o hlow hhigh
    have ho : o ≤ Utf8.byteLength t :=
      Nat.le_trans (Nat.le_of_lt hhigh) (Utf8.byteLength_take_le t (k + 1))
    rw [charColumn_eq hline ho, Utf8.charsWithin_eq hk hlow hhigh]
  · intro k hk
    simp only [charColumn, hline]
    exact congrArg Except.ok (columnIn_byteLength hk)

/-- Characters of two, three, four and one bytes on the second line of a buffer. -/
def mixedLine : Buffer where
  firstLine := 5
  text := some ['a', '\r', '\n', 'é', '€', '😀', 'b']

/-- The bytes of the third character start at offset 5 and end at offset 9. -/
theorem charColumn_counts_whole_characters_of_mixedLine :
    mixedLine.line 6 = .ok (some ['é', '€', '😀', 'b']) ∧
      mixedLine.charColumn 6 (7 : Nat) = .ok (2 : Nat) ∧
      mixedLine.charColumn 6 (9 : Nat) = .ok (3 : Nat) ∧
      (Utf8.decodeIgnoring ((Utf8.encode ['é', '€', '😀', 'b']).take 7)).length = 2 := by
  have hline : mixedLine.line 6 = .ok (some ['é', '€', '😀', 'b']) := rfl
  obtain ⟨hcolumn, -, hinside, hafter⟩ := mixedLine.charColumn_counts_whole_characters hline
  have hseven := hinside 2 (by decide) 7 (by decide) (by decide)
  obtain ⟨k, hk, -, hread⟩ := hcolumn 7 (by decide)
  have htwo : (k : Int) = (2 : Nat) := Except.ok.inj (hk.symm.trans hseven)
  exact ⟨hline, hseven, hafter 3 (by decide), by omega⟩

end Buffer

end SourceUnit
