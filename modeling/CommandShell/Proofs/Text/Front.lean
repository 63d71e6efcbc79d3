import CommandShell.Proofs.Keys.Decoder
import CommandShell.Proofs.Text.Utf8

/-!
# `CommandShell.Proofs.Text.Front` — what stands at the front of some bytes

Three things can stand at the front of some bytes: a character, an unfinished character at their
very end, or an invalid part. Which one, and where it ends, is told by the encoding of characters
alone: an invalid part is as long as it can still begin a character, and at least one byte.

## Contents
- **In words of the encoding.** `Begins`, `Unfinished` and `MaximalInvalid`.
- **Sequences in progress.** `Lead.Stands` says what has been read since a first byte; it is opened by
  `stands_of_lead?`, kept by `Lead.Stands.step` and closed by `Lead.Stands.last`.
- **Fronts.** `front_cases`; `front_eq_char_iff`, `front_eq_short_iff` and `maximalInvalid_of_front`
  say what each front means, and `front_append_char` and `front_append_invalid` that more bytes
  behind change nothing.
-/

namespace CommandShell

namespace Utf8

/-! ## In words of the encoding -/

/-- Whether bytes begin a character, be it a whole one. -/
def Begins (bs : Bytes) : Prop := ∃ c, bs <+: encodeChar c

/-- Whether bytes are a character without its last bytes. -/
def Unfinished (bs : Bytes) : Prop :=
  bs ≠ [] ∧ ∃ c missing, missing ≠ [] ∧ encodeChar c = bs ++ missing

/-- A part at the front of some bytes that is no character and cannot be made longer: it begins one,
    or is a single byte that begins none, and does not begin one together with the next byte. -/
structure MaximalInvalid (part rest : Bytes) : Prop where
  noChar : ∀ c, ¬ encodeChar c <+: part ++ rest
  nonempty : part ≠ []
  begins : Begins part ∨ part.length = 1
  maximal : ∀ b after, rest = b :: after → ¬ Begins (part ++ [b])

theorem Begins.of_isPrefix {bs cs : Bytes} (h : Begins cs) (hbs : bs <+: cs) : Begins bs := by
  obtain ⟨c, hc⟩ := h
  exact ⟨c, hbs.trans hc⟩

theorem Unfinished.begins {bs : Bytes} (h : Unfinished bs) : Begins bs := by
  obtain ⟨-, c, missing, -, hc⟩ := h
  exact ⟨c, missing, hc.symm⟩

/-! ## The bytes of a number -/

/-- The last bytes of a number's spelling. -/
def tailOf : Nat → Nat → Bytes
  | 0, _ => []
  | k + 1, n => continuation (n / tails k) :: tailOf k n

/-- The bytes of a character given by its number. -/
theorem encodeChar_ofNat {n : Nat} (h : n.isValidChar) :
    encodeChar (Char.ofNat n) =
      if n < 0x80 then [UInt8.ofNat n]
      else if n < 0x800 then UInt8.ofNat (0xC0 + n / 0x40) :: tailOf 1 n
      else if n < 0x10000 then UInt8.ofNat (0xE0 + n / 0x1000) :: tailOf 2 n
      else UInt8.ofNat (0xF0 + n / 0x40000) :: tailOf 3 n := by
  simp only [encodeChar, toNat_ofNat h, tailOf, tails, Nat.one_mul, Nat.reduceMul, Nat.div_one]

/-! ## Sequences in progress -/

/-- What a first byte announces: its own bits, how many bytes follow, and which numbers are left out
    because they are too small, surrogates, or too large. -/
structure Lead.Announces (l : Lead) (b : UInt8) : Prop where
  byte : l.missing = 1 ∧ b.toNat = 0xC0 + l.bits ∧ 2 ≤ l.bits ∧ l.bits < 0x20 ∨
    l.missing = 2 ∧ b.toNat = 0xE0 + l.bits ∧ l.bits < 0x10 ∧ (l.bits = 0 → 0xA0 ≤ l.low.toNat) ∨
    l.missing = 3 ∧ b.toNat = 0xF0 + l.bits ∧ l.bits < 0x05 ∧ (l.bits = 0 → 0x90 ≤ l.low.toNat)
  possible : l.low.toNat ≤ l.high.toNat

instance (l : Lead) (b : UInt8) : Decidable (l.Announces b) :=
  decidable_of_iff (_ ∧ _) ⟨fun ⟨hbyte, hpossible⟩ => ⟨hbyte, hpossible⟩, fun h => ⟨h.byte, h.possible⟩⟩

/-- Every first byte of a sequence announces it. The table of first bytes has 256 rows. -/
theorem lead?_announces {b : UInt8} {l : Lead} (h : lead? b = some l) : l.Announces b := by
  have hrows : ∀ n < 256,
      (lead? (UInt8.ofNat n)).all (fun l => decide (l.Announces (UInt8.ofNat n))) = true := by
    decide +kernel
  have hrow := hrows b.toNat b.toNat_lt
  rw [UInt8.ofNat_toNat, h] at hrow
  exact of_decide_eq_true hrow

/-- The bytes `seen` have been read, and the sequence can become the numbers between the bounds of
    `l`: the spelling of each of them starts with just these bytes. -/
structure Lead.Stands (l : Lead) (seen : Bytes) : Prop where
  proper : l.Proper
  possible : l.least < l.bound
  nonempty : seen ≠ []
  /-- More bytes are read from here on. -/
  reads : ∀ bs, front (seen ++ bs) = follow l.missing l seen bs
  spells : ∀ n, l.least ≤ n → n < l.bound → encodeChar (Char.ofNat n) = seen ++ tailOf l.missing n

/-- The numbers that a proper sequence can become are those of characters. -/
theorem Lead.Proper.isValidChar {l : Lead} (h : l.Proper) {n : Nat} (hleast : l.least ≤ n)
    (hbound : n < l.bound) : n.isValidChar := by
  have hvalid := h.valid
  unfold Nat.isValidChar
  omega

theorem tails_pos (k : Nat) : 0 < tails k := by
  induction k with
  | zero => decide
  | succ k ih => exact Nat.mul_pos ih (by decide)

/-- **A first byte** opens a sequence. -/
theorem stands_of_lead? {b : UInt8} {l : Lead} (hb : ¬ b < 0x80) (h : lead? b = some l) :
    l.Stands [b] := by
  have hproper := lead?_proper h
  have hannounces := lead?_announces h
  have hlow := hproper.low
  have hhigh := hproper.high
  refine ⟨hproper, ?_, List.cons_ne_nil _ _, ?_, ?_⟩
  · have hpossible := hannounces.possible
    unfold Lead.least Lead.bound
    exact Nat.mul_lt_mul_of_pos_left (by omega) (tails_pos _)
  · intro bs
    rw [List.singleton_append, front, if_neg hb, h]
  · intro n hleast hbound
    rw [encodeChar_ofNat (hproper.isValidChar hleast hbound), List.singleton_append]
    have hfirst : UInt8.ofNat b.toNat = b := UInt8.ofNat_toNat
    unfold Lead.least at hleast
    unfold Lead.bound at hbound
    -- the three lengths; the bounds say that `n` has this length and begins with these bits
    rcases hannounces.byte with ⟨hm, hbits, h2, h3⟩ | ⟨hm, hbits, h2, h3⟩ | ⟨hm, hbits, h2, h3⟩ <;>
      rw [hm] at hleast hbound <;> simp only [Nat.reduceSub, tails] at hleast hbound
    · rw [if_neg (by omega), if_pos (by omega), hm, ← hfirst, hbits,
        show n / 0x40 = l.bits by omega]
    · rw [if_neg (by omega), if_neg (by omega), if_pos (by omega), hm, ← hfirst, hbits,
        show n / 0x1000 = l.bits by omega]
    · rw [if_neg (by omega), if_neg (by omega), if_neg (by omega), hm, ← hfirst, hbits,
        show n / 0x40000 = l.bits by omega]

/-- The byte that stands next in the spelling of the numbers that an extended sequence can become. -/
theorem continuation_eq_of_admits {l : Lead} {b : UInt8} (h : l.Proper) (hb : l.admits b = true)
    {n : Nat} (hn : n / tails (l.missing - 1) = (l.extend b).bits) :
    continuation (n / tails (l.missing - 1)) = b := by
  obtain ⟨hge, hle⟩ := Lead.admits_iff.mp hb
  have hlow := h.low
  have hhigh := h.high
  have hbyte : 0x80 + (l.extend b).bits % 0x40 = b.toNat := by
    simp only [Lead.extend]
    omega
  rw [hn, continuation, hbyte, UInt8.ofNat_toNat]

/-- **One more byte** of a sequence of which more than that byte was missing. -/
theorem Lead.Stands.step {l : Lead} {seen : Bytes} (h : l.Stands seen) {b : UInt8}
    (hb : l.admits b = true) (hmore : l.missing ≠ 1) : (l.extend b).Stands (seen ++ [b]) := by
  have hproper := h.proper.extend hb hmore
  obtain ⟨k, hk⟩ : ∃ k, l.missing = k + 2 := by
    have hmissing := h.proper.missing
    exact ⟨l.missing - 2, by omega⟩
  obtain ⟨hleast, hbound⟩ := Lead.extend_bits h.proper hb
  have hleast' := h.proper.extend_least hmore b
  have hbound' := h.proper.extend_bound hmore b
  refine ⟨hproper, ?_, by simp, ?_, ?_⟩
  · rw [hleast', hbound']
    exact Nat.mul_lt_mul_of_pos_left (Nat.lt_succ_self _) (tails_pos _)
  · intro bs
    rw [List.append_assoc, List.singleton_append, h.reads, hk, follow, if_pos hb,
      Lead.extend_missing, hk]
    rfl
  · intro n hn hn'
    rw [hleast'] at hn
    rw [hbound'] at hn'
    have hquotient : n / tails (l.missing - 1) = (l.extend b).bits :=
      Nat.div_eq_of_lt_le (by rwa [Nat.mul_comm] at hn) (by rwa [Nat.mul_comm] at hn')
    have hnext := continuation_eq_of_admits h.proper hb hquotient
    rw [h.spells n (Nat.le_trans hleast hn) (Nat.lt_of_lt_of_le hn' hbound), hk, tailOf,
      List.append_assoc, List.singleton_append, Lead.extend_missing, hk]
    rw [hk] at hnext
    rw [show k + 1 = k + 2 - 1 from rfl, hnext]

/-- **The last byte** of a sequence makes it a character. -/
theorem Lead.Stands.last {l : Lead} {seen : Bytes} (h : l.Stands seen) {b : UInt8}
    (hb : l.admits b = true) (hlast : l.missing = 1) :
    encodeChar (Char.ofNat (l.extend b).bits) = seen ++ [b] := by
  obtain ⟨hleast, hbound⟩ := Lead.extend_bits h.proper hb
  have hone : tails (l.missing - 1) = 1 := by rw [hlast]; rfl
  rw [hone, Nat.one_mul] at hleast hbound
  have hnext := continuation_eq_of_admits (n := (l.extend b).bits) h.proper hb
    (by rw [hone, Nat.div_one])
  rw [h.spells _ hleast hbound, hlast, tailOf, tailOf]
  rw [hlast] at hnext
  rw [show (0 : Nat) = 1 - 1 from rfl, hnext]

/-- A sequence in progress is an unfinished character. -/
theorem Lead.Stands.unfinished {l : Lead} {seen : Bytes} (h : l.Stands seen) : Unfinished seen := by
  have hspells := h.spells l.least (Nat.le_refl _) h.possible
  refine ⟨h.nonempty, _, _, ?_, hspells⟩
  rcases h.proper.missing with hm | hm | hm <;> rw [hm, tailOf] <;> exact List.cons_ne_nil _ _

/-- Where the bytes end, a sequence in progress is all that there is. -/
theorem Lead.Stands.front_eq_short {l : Lead} {seen : Bytes} (h : l.Stands seen) :
    front seen = .short := by
  have hreads := h.reads []
  rw [List.append_nil] at hreads
  rw [hreads]
  rcases h.proper.missing with hm | hm | hm <;> rw [hm, follow]

/-- A byte that may not stand next makes a sequence in progress invalid. -/
theorem Lead.Stands.front_eq_invalid {l : Lead} {seen : Bytes} (h : l.Stands seen) {b : UInt8}
    (hb : ¬ l.admits b = true) (bs : Bytes) : front (seen ++ b :: bs) = .invalid seen (b :: bs) := by
  rw [h.reads]
  rcases h.proper.missing with hm | hm | hm <;> rw [hm, follow, if_neg hb]

/-! ## Fronts -/

/-- Where the reading of a sequence in progress can end. -/
inductive FrontCase : Bytes → Front → Prop where
  /-- There are no bytes. -/
  | nil : FrontCase [] .short
  /-- At the end of a character. -/
  | char (c : Char) (rest : Bytes) : FrontCase (encodeChar c ++ rest) (.char c rest)
  /-- At a byte that begins no character. -/
  | single (b : UInt8) (rest : Bytes) (hb : ¬ b < 0x80) (h : lead? b = none) :
      FrontCase (b :: rest) (.invalid [b] rest)
  /-- At a byte that may not stand next. -/
  | broken (l : Lead) (seen : Bytes) (b : UInt8) (rest : Bytes) (h : l.Stands seen)
      (hb : ¬ l.admits b = true) : FrontCase (seen ++ b :: rest) (.invalid seen (b :: rest))
  /-- At the end of the bytes. -/
  | short (l : Lead) (seen : Bytes) (h : l.Stands seen) : FrontCase seen .short

theorem Lead.Stands.frontCase {l : Lead} {seen : Bytes} (h : l.Stands seen) (bs : Bytes) :
    FrontCase (seen ++ bs) (front (seen ++ bs)) := by
  induction bs generalizing l seen with
  | nil =>
    rw [List.append_nil, h.front_eq_short]
    exact .short l seen h
  | cons b bs ih =>
    by_cases hb : l.admits b = true
    · have hassoc : seen ++ b :: bs = seen ++ [b] ++ bs := by simp
      by_cases hlast : l.missing = 1
      · -- the last byte: the character is there
        rw [hassoc, ← h.last hb hlast, front_encodeChar]
        exact .char _ bs
      · rw [hassoc]
        exact ih (h.step hb hlast)
    · rw [h.front_eq_invalid hb]
      exact .broken l seen b bs h hb

/-- **What can stand at the front.** -/
theorem front_cases (bs : Bytes) : FrontCase bs (front bs) := by
  cases bs with
  | nil => exact .nil
  | cons b bs =>
    by_cases hb : b < 0x80
    · -- an ASCII character
      have hn : b.toNat < 0x80 := UInt8.lt_iff_toNat_lt.mp hb
      have hspelled : encodeChar (Char.ofNat b.toNat) = [b] := by
        rw [encodeChar_ofNat (.inl (by omega)), if_pos hn, UInt8.ofNat_toNat]
      rw [← List.singleton_append, ← hspelled, front_encodeChar]
      exact .char _ bs
    · cases hlead : lead? b with
      | none =>
        have hfront : front (b :: bs) = .invalid [b] bs := by rw [front, if_neg hb, hlead]
        rw [hfront]
        exact .single b bs hb hlead
      | some l => exact (stands_of_lead? hb hlead).frontCase bs

/-- **A character** is at the front if the bytes start with its own. -/
theorem front_eq_char_iff {bs rest : Bytes} {c : Char} :
    front bs = .char c rest ↔ bs = encodeChar c ++ rest := by
  constructor
  · intro h
    have hcase := front_cases bs
    rw [h] at hcase
    cases hcase
    rfl
  · rintro rfl
    exact front_encodeChar c rest

/-- What stands behind a character does not matter for it. -/
theorem front_append_char {bs rest : Bytes} {c : Char} (h : front bs = .char c rest) (more : Bytes) :
    front (bs ++ more) = .char c (rest ++ more) := by
  rw [front_eq_char_iff] at h ⊢
  rw [h, List.append_assoc]

/-- What stands behind an invalid part does not matter for it. -/
theorem front_append_invalid {bs part rest : Bytes} (h : front bs = .invalid part rest)
    (more : Bytes) : front (bs ++ more) = .invalid part (rest ++ more) := by
  have hcase := front_cases bs
  rw [h] at hcase
  cases hcase with
  | single b rest hb hlead => rw [List.cons_append, front, if_neg hb, hlead]
  | broken l seen b rest hstands hb =>
    rw [List.append_assoc, List.cons_append, hstands.front_eq_invalid hb]

/-- **Nothing is at the front** of no bytes, and of an unfinished character at the end. -/
theorem front_eq_short_iff {bs : Bytes} : front bs = .short ↔ bs = [] ∨ Unfinished bs := by
  constructor
  · intro h
    have hcase := front_cases bs
    rw [h] at hcase
    cases hcase with
    | nil => exact .inl rfl
    | short l _ hstands => exact .inr hstands.unfinished
  · rintro (rfl | ⟨-, c, missing, hmissing, hc⟩)
    · rfl
    -- the missing bytes make the whole character come to the front
    have hwhole : front (bs ++ missing) = .char c [] := by
      rw [front_eq_char_iff, hc, List.append_nil]
    cases hfront : front bs with
    | short => rfl
    | char d rest =>
      rw [front_append_char hfront, Front.char.injEq] at hwhole
      exact absurd (List.append_eq_nil_iff.mp hwhole.2).2 hmissing
    | invalid part rest =>
      rw [front_append_invalid hfront] at hwhole
      cases hwhole

/-- The bytes with the invalid part at their front. -/
theorem eq_append_of_front_invalid {bs part rest : Bytes} (h : front bs = .invalid part rest) :
    bs = part ++ rest := by
  have hcase := front_cases bs
  rw [h] at hcase
  cases hcase <;> rfl

/-- Bytes that begin a character have no invalid part at their front. -/
theorem Begins.front_ne_invalid {bs : Bytes} (h : Begins bs) (part rest : Bytes) :
    front bs ≠ .invalid part rest := by
  intro hfront
  obtain ⟨c, more, hc⟩ := h
  have hwhole := front_append_invalid hfront more
  rw [hc, front_eq_char_iff.mpr (List.append_nil _).symm] at hwhole
  cases hwhole

/-- **An invalid part** at the front is as long as it can be. -/
theorem maximalInvalid_of_front {bs part rest : Bytes} (h : front bs = .invalid part rest) :
    MaximalInvalid part rest := by
  have hnoChar : ∀ c, ¬ encodeChar c <+: part ++ rest := by
    rintro c ⟨more, hmore⟩
    rw [← eq_append_of_front_invalid h, eq_comm, ← front_eq_char_iff, h] at hmore
    cases hmore
  have hcase := front_cases bs
  rw [h] at hcase
  cases hcase with
  | single b rest hb hlead =>
    refine ⟨hnoChar, List.cons_ne_nil _ _, .inr rfl, ?_⟩
    intro x after _ hbegins
    exact hbegins.front_ne_invalid [b] [x] (by
      rw [List.singleton_append, front, if_neg hb, hlead])
  | broken l seen b rest hstands hb =>
    refine ⟨hnoChar, hstands.nonempty, .inl hstands.unfinished.begins, ?_⟩
    intro x after hx hbegins
    cases hx
    exact hbegins.front_ne_invalid _ _ (hstands.front_eq_invalid hb [])

end Utf8

end CommandShell
