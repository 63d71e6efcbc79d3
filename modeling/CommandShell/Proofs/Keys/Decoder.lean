import CommandShell.Keys.Decoder

/-!
# `CommandShell.Proofs.Keys.Decoder` — what the decoder can hold back

Between two bytes the decoder holds an unfinished sequence, and the sequence can still become some
numbers. They shrink with every byte, and from the first byte on they are numbers of characters that
are not ASCII. Hence a byte below `0x80` is never part of a sequence: it always is a key itself, and
no other byte ever delivers an ASCII key.

## Contents
- **Numbers.** `Lead.least` and `Lead.bound` enclose what a sequence can become; `Lead.Proper` is the
  invariant, kept by `Lead.Proper.extend`.
- **Decoder.** `Decoder.Proper`, kept by every byte (`push_proper`); `push_ascii` and
  `push_not_ascii` tell the keys that a byte delivers.
-/

namespace CommandShell

namespace Utf8

/-! ## What a sequence can become -/

/-- How many numbers so many continuation bytes can tell apart. -/
def tails : Nat → Nat
  | 0 => 1
  | n + 1 => tails n * 0x40

/-- The least number that a sequence can become. -/
def Lead.least (l : Lead) : Nat :=
  tails (l.missing - 1) * (0x40 * l.bits + (l.low.toNat - 0x80))

/-- The first number that is too large for a sequence to become. -/
def Lead.bound (l : Lead) : Nat :=
  tails (l.missing - 1) * (0x40 * l.bits + (l.high.toNat - 0x7F))

/-- An unfinished sequence: up to three bytes are missing, the next one is a continuation byte, and
    all that it can become are characters, none of them ASCII. -/
structure Lead.Proper (l : Lead) : Prop where
  missing : l.missing = 1 ∨ l.missing = 2 ∨ l.missing = 3
  low : 0x80 ≤ l.low.toNat
  high : l.high.toNat ≤ 0xBF
  least : 0x80 ≤ l.least
  valid : l.bound ≤ 0xD800 ∨ 0xDFFF < l.least ∧ l.bound ≤ 0x110000

theorem Lead.admits_iff {l : Lead} {b : UInt8} :
    l.admits b = true ↔ l.low.toNat ≤ b.toNat ∧ b.toNat ≤ l.high.toNat := by
  simp only [Lead.admits, Bool.and_eq_true, decide_eq_true_eq, UInt8.le_iff_toNat_le]

instance (l : Lead) : Decidable l.Proper :=
  decidable_of_iff ((l.missing = 1 ∨ l.missing = 2 ∨ l.missing = 3) ∧ 0x80 ≤ l.low.toNat ∧
      l.high.toNat ≤ 0xBF ∧ 0x80 ≤ l.least ∧
      (l.bound ≤ 0xD800 ∨ 0xDFFF < l.least ∧ l.bound ≤ 0x110000))
    ⟨fun ⟨hmissing, hlow, hhigh, hleast, hvalid⟩ => ⟨hmissing, hlow, hhigh, hleast, hvalid⟩,
      fun h => ⟨h.missing, h.low, h.high, h.least, h.valid⟩⟩

/-- The first byte of a sequence opens a proper one. The table of first bytes has 256 rows. -/
theorem lead?_proper {b : UInt8} {l : Lead} (h : lead? b = some l) : l.Proper := by
  have hrows : ∀ n < 256, (lead? (UInt8.ofNat n)).all (fun l => decide l.Proper) = true := by
    decide +kernel
  have hrow := hrows b.toNat b.toNat_lt
  rw [UInt8.ofNat_toNat, h] at hrow
  exact of_decide_eq_true hrow

@[simp] theorem Lead.extend_missing (l : Lead) (b : UInt8) :
    (l.extend b).missing = l.missing - 1 := rfl

@[simp] theorem Lead.extend_low (l : Lead) (b : UInt8) : (l.extend b).low = 0x80 := rfl

@[simp] theorem Lead.extend_high (l : Lead) (b : UInt8) : (l.extend b).high = 0xBF := rfl

/-- The number that a sequence becomes with its last byte lies between its bounds. -/
theorem Lead.extend_bits {l : Lead} {b : UInt8} (h : l.Proper) (hb : l.admits b = true) :
    l.least ≤ tails (l.missing - 1) * (l.extend b).bits ∧
      tails (l.missing - 1) * ((l.extend b).bits + 1) ≤ l.bound := by
  have hlow := h.low
  obtain ⟨hle, hge⟩ := Lead.admits_iff.mp hb
  unfold Lead.least Lead.bound Lead.extend
  dsimp only
  exact ⟨Nat.mul_le_mul_left _ (by omega), Nat.mul_le_mul_left _ (by omega)⟩

/-- **The last byte** gives the number of a character that is not ASCII. -/
theorem Lead.Proper.last {l : Lead} {b : UInt8} (h : l.Proper) (hb : l.admits b = true)
    (hlast : l.missing = 1) :
    0x80 ≤ (l.extend b).bits ∧ (l.extend b).bits.isValidChar := by
  obtain ⟨hleast, hbound⟩ := Lead.extend_bits h hb
  have hge := h.least
  have hvalid := h.valid
  rw [hlast, Nat.sub_self, tails, Nat.one_mul] at hleast hbound
  unfold Nat.isValidChar
  omega

/-- Six more bits are known with one more byte, and one byte less can tell numbers apart. -/
theorem Lead.Proper.tails_eq {l : Lead} (h : l.Proper) (hmore : l.missing ≠ 1) :
    tails (l.missing - 1) = tails (l.missing - 1 - 1) * 0x40 := by
  have hmissing := h.missing
  obtain ⟨n, hn⟩ : ∃ n, l.missing - 1 = n + 1 := ⟨l.missing - 2, by omega⟩
  rw [hn]
  rfl

/-- After one more byte, the sequence can become the numbers that start with the bits so far. -/
theorem Lead.Proper.extend_least {l : Lead} (h : l.Proper) (hmore : l.missing ≠ 1) (b : UInt8) :
    (l.extend b).least = tails (l.missing - 1) * (l.extend b).bits := by
  have hzero : (l.extend b).low.toNat - 0x80 = 0 := by
    rw [Lead.extend_low]
    decide
  unfold Lead.least
  rw [h.tails_eq hmore, Nat.mul_assoc, hzero, Nat.add_zero, Lead.extend_missing]

theorem Lead.Proper.extend_bound {l : Lead} (h : l.Proper) (hmore : l.missing ≠ 1) (b : UInt8) :
    (l.extend b).bound = tails (l.missing - 1) * ((l.extend b).bits + 1) := by
  have hopen : (l.extend b).high.toNat - 0x7F = 0x40 := by
    rw [Lead.extend_high]
    decide
  unfold Lead.bound
  rw [h.tails_eq hmore, Nat.mul_assoc, hopen, ← Nat.mul_add_one, Lead.extend_missing]

/-- **One more byte** leaves a proper sequence, if more than that byte was missing. -/
theorem Lead.Proper.extend {l : Lead} {b : UInt8} (h : l.Proper) (hb : l.admits b = true)
    (hmore : l.missing ≠ 1) : (l.extend b).Proper := by
  obtain ⟨hleast, hbound⟩ := Lead.extend_bits h hb
  have hmissing := h.missing
  rw [← h.extend_least hmore] at hleast
  rw [← h.extend_bound hmore] at hbound
  refine ⟨?_, Nat.le_refl _, Nat.le_refl _, Nat.le_trans h.least hleast, ?_⟩
  · simp only [Lead.extend]
    omega
  · rcases h.valid with hbelow | ⟨habove, hmax⟩
    · exact .inl (Nat.le_trans hbound hbelow)
    · exact .inr ⟨Nat.lt_of_lt_of_le habove hleast, Nat.le_trans hbound hmax⟩

/-- A character given by a number of a character has that number. -/
theorem toNat_ofNat {n : Nat} (h : n.isValidChar) : (Char.ofNat n).toNat = n := by
  rw [Char.ofNat, dif_pos h]
  rfl

end Utf8

namespace Decoder

open Utf8

/-! ## The decoder between two bytes -/

/-- What is held back is a proper sequence. -/
def Proper : Decoder → Prop
  | .idle => True
  | .within _ lead => lead.Proper

/-- The key that what is held back makes if nothing continues it. -/
def broken : Decoder → List Key
  | .idle => []
  | .within seen _ => [.invalid seen]

theorem start_ascii {b : UInt8} (hb : b < 0x80) :
    start b = ([.char (Char.ofNat b.toNat)], .idle) := by
  rw [start, if_pos hb]

/-- The first byte of a key that is not ASCII: nothing is delivered but the byte as a broken one. -/
theorem start_not_ascii {b : UInt8} (hb : ¬ b < 0x80) :
    (start b).2.Proper ∧ ∀ k ∈ (start b).1, k = .invalid [b] := by
  rw [start, if_neg hb]
  split
  · exact ⟨trivial, fun k hk => List.mem_singleton.mp hk⟩
  · next lead hlead => exact ⟨lead?_proper hlead, fun k hk => absurd hk List.not_mem_nil⟩

/-- **An ASCII byte** is never part of a sequence: what is held back is broken off, and the byte is
    the last key that it delivers. -/
theorem push_ascii {d : Decoder} (hd : d.Proper) {b : UInt8} (hb : b < 0x80) :
    d.push b = (d.broken ++ [.char (Char.ofNat b.toNat)], .idle) := by
  cases d with
  | idle => exact start_ascii hb
  | within seen lead =>
    have hnot : ¬ lead.admits b = true := by
      rw [Lead.admits_iff]
      have hlow : 0x80 ≤ lead.low.toNat := Lead.Proper.low hd
      have hlt : b.toNat < 0x80 := UInt8.lt_iff_toNat_lt.mp hb
      omega
    rw [push, if_neg hnot, start_ascii hb]
    rfl

/-- **Any other byte** delivers no ASCII key, and leaves a proper sequence. -/
theorem push_not_ascii {d : Decoder} (hd : d.Proper) {b : UInt8} (hb : ¬ b < 0x80) :
    (d.push b).2.Proper ∧ ∀ k ∈ (d.push b).1, 0x80 ≤ k.typed.toNat := by
  have hinvalid : ∀ part, 0x80 ≤ (Key.invalid part).typed.toNat := fun _ => by
    show 0x80 ≤ replacement.toNat
    decide
  obtain ⟨hproper, hkeys⟩ := start_not_ascii hb
  cases d with
  | idle => exact ⟨hproper, fun k hk => hkeys k hk ▸ hinvalid [b]⟩
  | within seen lead =>
    have hlead : lead.Proper := hd
    by_cases hadmits : lead.admits b = true
    · -- the byte continues the sequence, and may complete it
      rw [push, if_pos hadmits]
      by_cases hlast : lead.missing = 1
      · obtain ⟨hbits, hchar⟩ := hlead.last hadmits hlast
        have hzero : (lead.extend b).missing = 0 := by simp [Lead.extend, hlast]
        rw [if_pos hzero]
        refine ⟨trivial, ?_⟩
        intro k hk
        rw [List.mem_singleton.mp hk]
        show 0x80 ≤ (Char.ofNat (lead.extend b).bits).toNat
        rw [toNat_ofNat hchar]
        exact hbits
      · have hmore : (lead.extend b).missing ≠ 0 := by
          have hmissing := hlead.missing
          simp only [Lead.extend]
          omega
        rw [if_neg hmore]
        exact ⟨hlead.extend hadmits hlast, fun k hk => absurd hk List.not_mem_nil⟩
    · -- the sequence is broken off, and the byte counts as the first one of the next key
      rw [push, if_neg hadmits]
      refine ⟨hproper, ?_⟩
      intro k hk
      rcases List.mem_cons.mp hk with rfl | hk
      · exact hinvalid seen
      · exact hkeys k hk ▸ hinvalid [b]

/-- **What is held back stays proper**, whatever byte comes. -/
theorem push_proper {d : Decoder} (hd : d.Proper) (b : UInt8) : (d.push b).2.Proper := by
  by_cases hb : b < 0x80
  · rw [push_ascii hd hb]
    trivial
  · exact (push_not_ascii hd hb).1

end Decoder

end CommandShell
