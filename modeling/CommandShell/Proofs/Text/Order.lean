import CommandShell.Proofs.Text.Utf8

/-!
# `CommandShell.Proofs.Text.Order` — texts in the order of their bytes

Texts are compared character by character, and their bytes byte by byte; both give the same order, since a
larger character has the larger byte at the first place where its bytes differ from those of a smaller one.
Nor does it make a difference whether characters or bytes are looked at to tell what a text starts with.

## Contents
- **First difference.** `Bytes.Under`, a smaller byte at the first difference; what is put behind the bytes
  does not matter then (`Under.append_lt`).
- **Characters.** `encodeChar_under`.
- **Texts.** `encode_lt_encode_iff` and `encode_isPrefix_iff`.
-/

namespace CommandShell

/-! ## The first difference -/

/-- At the first place where the two differ, both have a byte, and the first one has the smaller. -/
inductive Bytes.Under : Bytes → Bytes → Prop where
  | here {a b : UInt8} {as bs : Bytes} (h : a < b) : Under (a :: as) (b :: bs)
  | later {a : UInt8} {as bs : Bytes} (h : Under as bs) : Under (a :: as) (a :: bs)

theorem Bytes.Under.append_lt {as bs : Bytes} (h : Bytes.Under as bs) (cs ds : Bytes) :
    as ++ cs < bs ++ ds := by
  induction h with
  | here h =>
    rw [List.cons_append, List.cons_append, List.cons_lt_cons_iff]
    exact .inl h
  | later _ ih =>
    rw [List.cons_append, List.cons_append, List.cons_lt_cons_iff]
    exact .inr ⟨rfl, ih⟩

namespace Utf8

open Bytes (Under)

/-! ## Characters -/

theorem ofNat_lt {m n : Nat} (h : m < n) (hn : n < 0x100) : UInt8.ofNat m < UInt8.ofNat n := by
  rw [UInt8.lt_iff_toNat_lt, UInt8.toNat_ofNat', UInt8.toNat_ofNat']
  omega

theorem continuation_lt {m n : Nat} (h : m % 0x40 < n % 0x40) : continuation m < continuation n := by
  rw [UInt8.lt_iff_toNat_lt, toNat_continuation, toNat_continuation]
  omega

/-! The bytes behind the first one, of two numbers that have the same bits above. -/

variable {m n : Nat}

theorem under_one (h : m < n) (hbits : m / 0x40 = n / 0x40) :
    Under [continuation m] [continuation n] :=
  .here (continuation_lt (by omega))

theorem under_two (h : m < n) (hbits : m / 0x1000 = n / 0x1000) :
    Under [continuation (m / 0x40), continuation m] [continuation (n / 0x40), continuation n] := by
  rcases Nat.lt_or_ge (m / 0x40) (n / 0x40) with hlt | hge
  · exact .here (continuation_lt (by omega))
  · have hsame : m / 0x40 = n / 0x40 := by omega
    rw [hsame]
    exact .later (under_one h hsame)

theorem under_three (h : m < n) (hbits : m / 0x40000 = n / 0x40000) :
    Under [continuation (m / 0x1000), continuation (m / 0x40), continuation m]
      [continuation (n / 0x1000), continuation (n / 0x40), continuation n] := by
  rcases Nat.lt_or_ge (m / 0x1000) (n / 0x1000) with hlt | hge
  · exact .here (continuation_lt (by omega))
  · have hsame : m / 0x1000 = n / 0x1000 := by omega
    rw [hsame]
    exact .later (under_two h hsame)

/-- **A smaller character** has the smaller byte at the first difference. -/
theorem encodeChar_under {c d : Char} (h : c < d) : Under (encodeChar c) (encodeChar d) := by
  have hlt : c.toNat < d.toNat := h
  have hvalid := toNat_valid d
  unfold encodeChar
  generalize c.toNat = m at hlt
  generalize d.toNat = n at hlt hvalid
  dsimp only
  -- a longer sequence has the larger first byte; of the same length are those with the same first bits
  split
  · split
    · exact .here (ofNat_lt hlt (by omega))
    split
    · exact .here (ofNat_lt (by omega) (by omega))
    split
    · exact .here (ofNat_lt (by omega) (by omega))
    · exact .here (ofNat_lt (by omega) (by omega))
  rw [if_neg (show ¬ n < 0x80 by omega)]
  split
  · split
    · rcases Nat.lt_or_ge (m / 0x40) (n / 0x40) with hfirst | hfirst
      · exact .here (ofNat_lt (by omega) (by omega))
      · have hsame : m / 0x40 = n / 0x40 := by omega
        rw [hsame]
        exact .later (under_one hlt hsame)
    split
    · exact .here (ofNat_lt (by omega) (by omega))
    · exact .here (ofNat_lt (by omega) (by omega))
  rw [if_neg (show ¬ n < 0x800 by omega)]
  split
  · split
    · rcases Nat.lt_or_ge (m / 0x1000) (n / 0x1000) with hfirst | hfirst
      · exact .here (ofNat_lt (by omega) (by omega))
      · have hsame : m / 0x1000 = n / 0x1000 := by omega
        rw [hsame]
        exact .later (under_two hlt hsame)
    · exact .here (ofNat_lt (by omega) (by omega))
  rw [if_neg (show ¬ n < 0x10000 by omega)]
  rcases Nat.lt_or_ge (m / 0x40000) (n / 0x40000) with hfirst | hfirst
  · exact .here (ofNat_lt (by omega) (by omega))
  · have hsame : m / 0x40000 = n / 0x40000 := by omega
    rw [hsame]
    exact .later (under_three hlt hsame)

/-! ## Texts -/

theorem encodeChar_ne_nil (c : Char) : encodeChar c ≠ [] := by
  intro hnil
  have hfront := front_encodeChar c []
  rw [hnil] at hfront
  cases hfront

variable {s t : Text}

theorem encode_lt_encode (h : s < t) : encode s < encode t := by
  induction s generalizing t with
  | nil =>
    cases t with
    | nil => exact absurd h (List.lt_irrefl [])
    | cons d t =>
      obtain ⟨b, bs, hbytes⟩ := List.exists_cons_of_ne_nil (encodeChar_ne_nil d)
      rw [encode_cons, hbytes]
      exact List.nil_lt_cons b _
  | cons c s ih =>
    cases t with
    | nil => exact absurd h (List.not_lt_nil _)
    | cons d t =>
      rw [encode_cons, encode_cons]
      rcases List.cons_lt_cons_iff.mp h with hcd | ⟨rfl, hst⟩
      · exact (encodeChar_under hcd).append_lt _ _
      · exact List.append_left_lt (ih hst)

/-- **Texts are in the order of their bytes.** -/
theorem encode_lt_encode_iff : encode s < encode t ↔ s < t := by
  constructor
  · intro h
    apply Decidable.byContradiction
    intro hnot
    by_cases hts : t < s
    · exact List.lt_asymm h (encode_lt_encode hts)
    · have hsame : t = s := List.le_antisymm (List.not_lt.mp hnot) (List.not_lt.mp hts)
      rw [hsame] at h
      exact List.lt_irrefl _ h
  · exact encode_lt_encode

/-- **A text starts with another** just if its bytes start with the bytes of the other. -/
theorem encode_isPrefix_iff : encode s <+: encode t ↔ s <+: t := by
  constructor
  · rintro ⟨rest, h⟩
    induction s generalizing t with
    | nil => exact List.nil_prefix
    | cons c s ih =>
      rw [encode_cons, List.append_assoc] at h
      have hfront := front_encodeChar c (encode s ++ rest)
      rw [h] at hfront
      -- the first character is read back, from either side
      cases t with
      | nil => cases hfront
      | cons d t =>
        rw [encode_cons, front_encodeChar, Front.char.injEq] at hfront
        obtain ⟨rfl, hrest⟩ := hfront
        exact List.cons_prefix_cons.mpr ⟨rfl, ih hrest.symm⟩
  · rintro ⟨rest, rfl⟩
    rw [encode_append]
    exact List.prefix_append _ _

end Utf8

end CommandShell
