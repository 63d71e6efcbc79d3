import CommandShell.Text.Utf8

/-!
# `CommandShell.Proofs.Text.Utf8` — decoding undoes encoding

Every character is read back from its bytes, whatever follows them, and so is every text.

## Contents
- **Bytes.** `lead?_two`, `lead?_three` and `lead?_four`, what the first bytes announce;
  `follow_continuation`, one more byte of a sequence.
- **Round trip.** `front_encodeChar` for a character, `chunks_encode` and `decode?_encode` for a text.
-/

namespace CommandShell

namespace Utf8

/-! ## Single bytes -/

theorem toNat_continuation (n : Nat) : (continuation n).toNat = 0x80 + n % 0x40 := by
  have hlt : n % 0x40 < 0x40 := Nat.mod_lt _ (by decide)
  simp only [continuation, UInt8.toNat_ofNat']
  omega

/-- The first byte of two: the bits above six. -/
theorem lead?_two : ∀ k < 0x20, 2 ≤ k →
    lead? (UInt8.ofNat (0xC0 + k)) = some ⟨1, 0x80, 0xBF, k⟩ := by decide

/-- The first byte of three: the bits above twelve. Too small numbers and surrogates are left out. -/
theorem lead?_three : ∀ k < 0x10, lead? (UInt8.ofNat (0xE0 + k)) =
    some ⟨2, if k = 0 then 0xA0 else 0x80, if k = 0xD then 0x9F else 0xBF, k⟩ := by decide

/-- The first byte of four: the bits above eighteen. Too small and too large numbers are left out. -/
theorem lead?_four : ∀ k < 5, lead? (UInt8.ofNat (0xF0 + k)) =
    some ⟨3, if k = 0 then 0x90 else 0x80, if k = 4 then 0x8F else 0xBF, k⟩ := by decide

/-- A byte of a sequence, between the bounds that the bytes before it leave. -/
theorem follow_continuation {n x : Nat} {l : Lead} {seen bs : Bytes}
    (hlow : l.low.toNat ≤ 0x80 + x % 0x40) (hhigh : 0x80 + x % 0x40 ≤ l.high.toNat) :
    follow (n + 1) l seen (continuation x :: bs) =
      follow n ⟨l.missing - 1, 0x80, 0xBF, l.bits * 0x40 + x % 0x40⟩ (seen ++ [continuation x]) bs := by
  have hadmits : l.admits (continuation x) = true := by
    simp only [Lead.admits, Bool.and_eq_true, decide_eq_true_eq, UInt8.le_iff_toNat_le,
      toNat_continuation]
    exact ⟨hlow, hhigh⟩
  have hextend : l.extend (continuation x) =
      ⟨l.missing - 1, 0x80, 0xBF, l.bits * 0x40 + x % 0x40⟩ := by
    rw [Lead.extend, toNat_continuation, Nat.add_sub_cancel_left]
  rw [follow, if_pos hadmits, hextend]

/-- A byte of a sequence whose bytes before it leave the bounds open. -/
theorem follow_open_continuation {n m k x : Nat} {seen bs : Bytes} :
    follow (n + 1) ⟨m, 0x80, 0xBF, k⟩ seen (continuation x :: bs) =
      follow n ⟨m - 1, 0x80, 0xBF, k * 0x40 + x % 0x40⟩ (seen ++ [continuation x]) bs :=
  follow_continuation (Nat.le_add_right 0x80 _)
    (Nat.add_le_add_left (Nat.le_of_lt_succ (Nat.mod_lt x (by decide))) 0x80)

/-! ## Characters and texts -/

/-- A character is no surrogate and not above U+10FFFF. -/
theorem toNat_valid (c : Char) :
    c.toNat < 0xD800 ∨ 0xDFFF < c.toNat ∧ c.toNat < 0x110000 := c.valid

/-- A character beyond ASCII has no ASCII byte. -/
theorem le_of_mem_encodeChar {c : Char} (hc : 0x80 ≤ c.toNat) {b : UInt8} (hb : b ∈ encodeChar c) :
    0x80 ≤ b.toNat := by
  have hcontinuation (n : Nat) : 0x80 ≤ (continuation n).toNat := by
    rw [toNat_continuation]
    exact Nat.le_add_right ..
  have hvalid := toNat_valid c
  unfold encodeChar at hb
  dsimp only at hb
  rw [if_neg (Nat.not_lt_of_le hc)] at hb
  split at hb
  · simp only [List.mem_cons, List.not_mem_nil, or_false] at hb
    rcases hb with rfl | rfl
    · rw [UInt8.toNat_ofNat']
      omega
    · exact hcontinuation _
  split at hb
  · simp only [List.mem_cons, List.not_mem_nil, or_false] at hb
    rcases hb with rfl | rfl | rfl
    · rw [UInt8.toNat_ofNat']
      omega
    · exact hcontinuation _
    · exact hcontinuation _
  · simp only [List.mem_cons, List.not_mem_nil, or_false] at hb
    rcases hb with rfl | rfl | rfl | rfl
    · rw [UInt8.toNat_ofNat']
      omega
    · exact hcontinuation _
    · exact hcontinuation _
    · exact hcontinuation _

/-- An ASCII byte is the whole of the character that it belongs to. -/
theorem eq_of_mem_encodeChar {b : UInt8} (hb : b < 0x80) {c : Char} (h : b ∈ encodeChar c) :
    Char.ofNat b.toNat = c := by
  have hlow := UInt8.lt_iff_toNat_lt.mp hb
  have hascii : c.toNat < 0x80 :=
    Nat.lt_of_not_le fun hc => absurd (le_of_mem_encodeChar hc h) (Nat.not_le_of_lt hlow)
  rw [encodeChar, if_pos hascii, List.mem_singleton] at h
  have hbyte : b.toNat = c.toNat := by
    rw [h, UInt8.toNat_ofNat']
    omega
  rw [hbyte, Char.ofNat_toNat]

/-- The first byte of a longer sequence is never below `0x80`. -/
theorem front_of_lead {b : UInt8} {l : Lead} {bs : Bytes} (hb : 0x80 ≤ b.toNat)
    (h : lead? b = some l) : front (b :: bs) = follow l.missing l [b] bs := by
  have hnot : ¬ b < 0x80 := by
    rw [UInt8.lt_iff_toNat_lt]
    exact Nat.not_lt.mpr hb
  rw [front, if_neg hnot, h]

/-- **A character is read back** from its bytes, whatever follows them. -/
theorem front_encodeChar (c : Char) (bs : Bytes) : front (encodeChar c ++ bs) = .char c bs := by
  have hvalid := toNat_valid c
  have hc : Char.ofNat c.toNat = c := Char.ofNat_toNat c
  unfold encodeChar
  generalize c.toNat = n at hvalid hc
  dsimp only
  -- the four lengths of a sequence; in each the bytes put the bits of `n` together again
  split
  · next h1 =>
    have hn : (UInt8.ofNat n).toNat = n := by
      rw [UInt8.toNat_ofNat', Nat.mod_eq_of_lt (by omega)]
    have hlow : UInt8.ofNat n < 0x80 := by
      rw [UInt8.lt_iff_toNat_lt, hn]
      exact h1
    rw [List.singleton_append, front, if_pos hlow, hn, hc]
  split
  · next h1 h2 =>
    have hbits : n / 0x40 * 0x40 + n % 0x40 = n := by omega
    simp only [List.cons_append, List.nil_append]
    rw [front_of_lead (by rw [UInt8.toNat_ofNat']; omega)
        (lead?_two (n / 0x40) (by omega) (by omega)),
      follow_open_continuation, follow, hbits, hc]
  split
  · next h1 h2 h3 =>
    have hbits : (n / 0x1000 * 0x40 + n / 0x40 % 0x40) * 0x40 + n % 0x40 = n := by omega
    have hlow : (if n / 0x1000 = 0 then 0xA0 else 0x80 : UInt8).toNat ≤ 0x80 + n / 0x40 % 0x40 := by
      split <;> (simp only [UInt8.reduceToNat]; omega)
    have hhigh : 0x80 + n / 0x40 % 0x40 ≤ (if n / 0x1000 = 0xD then 0x9F else 0xBF : UInt8).toNat := by
      split <;> (simp only [UInt8.reduceToNat]; omega)
    simp only [List.cons_append, List.nil_append]
    rw [front_of_lead (by rw [UInt8.toNat_ofNat']; omega) (lead?_three (n / 0x1000) (by omega)),
      follow_continuation hlow hhigh, follow_open_continuation, follow, hbits, hc]
  · next h1 h2 h3 =>
    have hbits : ((n / 0x40000 * 0x40 + n / 0x1000 % 0x40) * 0x40 + n / 0x40 % 0x40) * 0x40 +
        n % 0x40 = n := by omega
    have hlow : (if n / 0x40000 = 0 then 0x90 else 0x80 : UInt8).toNat ≤
        0x80 + n / 0x1000 % 0x40 := by
      split <;> (simp only [UInt8.reduceToNat]; omega)
    have hhigh : 0x80 + n / 0x1000 % 0x40 ≤
        (if n / 0x40000 = 4 then 0x8F else 0xBF : UInt8).toNat := by
      split <;> (simp only [UInt8.reduceToNat]; omega)
    simp only [List.cons_append, List.nil_append]
    rw [front_of_lead (by rw [UInt8.toNat_ofNat']; omega) (lead?_four (n / 0x40000) (by omega)),
      follow_continuation hlow hhigh, follow_open_continuation, follow_open_continuation, follow,
      hbits, hc]

/-- A character in front is the first chunk. -/
theorem chunks_of_front_char {c : Char} {bs rest : Bytes} (h : front bs = .char c rest) :
    chunks bs = .char c :: chunks rest := by
  rw [chunks]
  split
  · next heq =>
    rw [h] at heq
    cases heq
    rfl
  · next heq => rw [h] at heq; cases heq
  · next heq => rw [h] at heq; cases heq

/-- **A text is cut into its characters.** -/
theorem chunks_encode (s : Text) : chunks (encode s) = s.map .char := by
  induction s with
  | nil =>
    rw [encode_nil, chunks]
    rfl
  | cons c s ih => rw [encode_cons, chunks_of_front_char (front_encodeChar c _), ih, List.map_cons]

theorem lossy_encode (s : Text) : lossy (encode s) = s := by
  rw [lossy, chunks_encode, List.map_map]
  exact List.map_id s

/-- **A text is read back** from its bytes. -/
theorem decode?_encode (s : Text) : decode? (encode s) = some s := by
  rw [decode?, chunks_encode]
  induction s with
  | nil => rfl
  | cons c s ih =>
    rw [List.map_cons, List.mapM_cons, ih]
    rfl

end Utf8

end CommandShell
