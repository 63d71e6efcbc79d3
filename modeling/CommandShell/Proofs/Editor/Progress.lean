import CommandShell.Editor.Read
import CommandShell.Proofs.Editor.State
import CommandShell.Proofs.Keys.Decoder
import CommandShell.Proofs.Keys.Segments
import CommandShell.Proofs.Output

/-!
# `CommandShell.Proofs.Editor.Progress` — one byte of a read

What one byte does to a read that shows its echoes on an output without limits. Neither the decoder
nor an unfinished escape sequence can hide a terminator: it ends the read with its last key, and
nothing else does.

## Contents
- **Earlier reads.** `Progress.after` puts other reads before one; nothing that a read does looks at
  them (`readFrom_after`).
- **Keys.** `press_unlimited`, and `pressAll_of_not_endsRead` and `pressAll_of_endsRead` for the keys
  of one byte.
- **Bytes.** `Progress.Open` is the invariant between two bytes; `take_of_not_terminator` keeps it,
  `take_of_terminator` ends the read.
-/

namespace CommandShell

/-! ## Earlier reads -/

/-- The echo, with `c` bytes taken before. -/
def Echo.after (c : Nat) (x : Echo) : Echo := { x with consumed := c + x.consumed }

namespace Editor

/-- A read with earlier ones of the same input before it: they have shown `earlier` and taken `c`
    bytes. -/
def Progress.after (earlier : Bytes) (c : Nat) (p : Progress) : Progress :=
  { p with
    output := p.output.after earlier
    consumed := c + p.consumed
    echoes := p.echoes.map (.after c) }

/-- A finished read with earlier ones before it. -/
def Read.after (earlier : Bytes) (c : Nat) (r : Read) : Read :=
  { r with
    output := r.output.after earlier
    consumed := c + r.consumed
    echoes := r.echoes.map (.after c) }

/-- Nothing that is shown depends on what was shown before. -/
theorem show_after (p : Progress) (earlier : Bytes) (c : Nat) (echo : Bytes) :
    (p.after earlier c).show echo = ((p.show echo).1.after earlier c, (p.show echo).2) := by
  unfold Progress.show
  rw [show (p.after earlier c).output = p.output.after earlier from rfl, Output.write_after]
  rcases p.output.write echo with ⟨written, fault | _⟩
  · dsimp only
    rw [Output.flush_after]
    rcases written.flush with ⟨kept, fault | _⟩
    · simp only [Progress.after, List.map_append, List.map_cons, List.map_nil]
      rfl
    · rfl
  · rfl

theorem press_after (e : Editor) (p : Progress) (earlier : Bytes) (c : Nat) (key : Key) :
    (p.after earlier c).press e key = ((p.press e key).1.after earlier c, (p.press e key).2) := by
  have hnoted := show_after
    { p with
      state := (e.press p.state key.typed).state, notices := p.notices ++ notice p.state key }
    earlier c (Utf8.encode (e.press p.state key.typed).echo)
  unfold Progress.press
  dsimp only
  rw [show (p.after earlier c).state = p.state from rfl,
    show (p.after earlier c).notices = p.notices from rfl]
  unfold Progress.after at hnoted ⊢
  rw [hnoted]
  rcases Progress.show _ _ with ⟨shown, fault | _⟩ <;> rfl

theorem pressAll_after (e : Editor) (p : Progress) (earlier : Bytes) (c : Nat) (keys : List Key) :
    Progress.pressAll e (p.after earlier c) keys =
      ((p.pressAll e keys).1.after earlier c, (p.pressAll e keys).2) := by
  induction keys generalizing p with
  | nil => rfl
  | cons key keys ih =>
    rw [Progress.pressAll, press_after, Progress.pressAll]
    rcases p.press e key with ⟨q, ending | _⟩
    · exact ih q
    · rfl

theorem take_after (e : Editor) (p : Progress) (earlier : Bytes) (c : Nat) (b : UInt8) :
    (p.after earlier c).take e b = ((p.take e b).1.after earlier c, (p.take e b).2) := by
  unfold Progress.take
  exact pressAll_after e { p with decoder := (p.decoder.push b).2, consumed := p.consumed + 1 }
    earlier c (p.decoder.push b).1

/-- **A read does not look at earlier ones**: what they showed and took is all that differs. -/
theorem readFrom_after (e : Editor) (p : Progress) (earlier : Bytes) (c : Nat)
    (input : List InputEvent) :
    Progress.readFrom e (p.after earlier c) input =
      (Progress.readFrom e p input).after earlier c := by
  induction input generalizing p with
  | nil => rfl
  | cons event input ih =>
    cases event with
    | fault k =>
      rw [Progress.readFrom, Progress.readFrom]
      split
      · exact ih p
      · rfl
    | byte b =>
      rw [Progress.readFrom, take_after, Progress.readFrom]
      rcases p.take e b with ⟨q, ending | _⟩
      · exact ih q
      · rfl

/-! ## Keys on an output without limits -/

/-- What keys leave alone in a read: everything shown is flushed, and neither the decoder nor the
    number of bytes taken changes. -/
structure Progress.Kept (p q : Progress) : Prop where
  output : q.output = .unlimited q.output.flushed
  decoder : q.decoder = p.decoder
  consumed : q.consumed = p.consumed

theorem Progress.Kept.trans {p q r : Progress} (h : p.Kept q) (h' : q.Kept r) : p.Kept r :=
  ⟨h'.output, h'.decoder.trans h.decoder, h'.consumed.trans h.consumed⟩

theorem show_unlimited {p : Progress} (hp : p.output = .unlimited p.output.flushed) (echo : Bytes) :
    p.show echo =
      ({ p with
        output := .unlimited (p.output.flushed ++ echo)
        echoes := p.echoes ++ [⟨p.consumed, echo⟩] }, none) := by
  rw [Progress.show, hp, Output.write_unlimited]
  dsimp only
  rw [Output.flush_unlimited]
  rfl

/-- **A key** is shown in full, and the read ends as the key says. -/
theorem press_unlimited (e : Editor) {p : Progress}
    (hp : p.output = .unlimited p.output.flushed) (key : Key) :
    ∃ q, p.press e key = (q, (endingOf p.state key.typed).map .ok) ∧ p.Kept q := by
  have hnoted : ({ p with
      state := (e.press p.state key.typed).state
      notices := p.notices ++ notice p.state key } : Progress).output =
        .unlimited p.output.flushed := hp
  unfold Progress.press
  dsimp only
  rw [show_unlimited hnoted, press_ending]
  exact ⟨_, rfl, rfl, rfl, rfl⟩

/-- Keys that do not end the read are all handled. -/
theorem pressAll_of_not_endsRead (e : Editor) {p : Progress}
    (hp : p.output = .unlimited p.output.flushed) {keys : List Key}
    (hkeys : ∀ k ∈ keys, ¬ endsRead k.typed) :
    ∃ q, p.pressAll e keys = (q, none) ∧ p.Kept q := by
  induction keys generalizing p with
  | nil => exact ⟨p, rfl, hp, rfl, rfl⟩
  | cons key keys ih =>
    obtain ⟨q, hq, hkept⟩ := press_unlimited e hp key
    obtain ⟨r, hr, hkept'⟩ := ih hkept.output fun k hk => hkeys k (List.mem_cons_of_mem key hk)
    rw [endingOf_of_not_endsRead (hkeys key List.mem_cons_self)] at hq
    rw [Progress.pressAll, hq]
    exact ⟨r, hr, hkept.trans hkept'⟩

/-- The first key that ends the read is the last one that is handled. -/
theorem pressAll_of_endsRead (e : Editor) {p : Progress}
    (hp : p.output = .unlimited p.output.flushed) {keys : List Key} {key : Key}
    (hkeys : ∀ k ∈ keys, ¬ endsRead k.typed) (hkey : endsRead key.typed) :
    ∃ q s x, p.pressAll e (keys ++ [key]) = (q, some (.ok x)) ∧
      endingOf s key.typed = some x ∧ p.Kept q := by
  induction keys generalizing p with
  | nil =>
    obtain ⟨q, hq, hkept⟩ := press_unlimited e hp key
    obtain ⟨x, hx⟩ := hkey.exists_ending p.state
    refine ⟨q, p.state, x, ?_, hx, hkept⟩
    rw [List.nil_append, Progress.pressAll, hq, hx]
    rfl
  | cons first keys ih =>
    -- the first key goes on, and leaves the output as it needs to be
    obtain ⟨q, hq, hkept⟩ := press_unlimited e hp first
    obtain ⟨r, s, x, hr, hx, hkept'⟩ :=
      ih hkept.output fun k hk => hkeys k (List.mem_cons_of_mem first hk)
    rw [endingOf_of_not_endsRead (hkeys first List.mem_cons_self)] at hq
    rw [List.cons_append, Progress.pressAll, hq]
    exact ⟨r, s, x, hr, hx, hkept.trans hkept'⟩

/-! ## Bytes on an output without limits -/

/-- Below `0x80` a byte is its own key. -/
theorem endsRead_ofNat_iff :
    ∀ n < 0x80, endsRead (Char.ofNat n) ↔ Bytes.isTerminator (UInt8.ofNat n) = true := by
  decide

theorem endsRead_ascii_iff {b : UInt8} (hb : b < 0x80) :
    endsRead (Char.ofNat b.toNat) ↔ Bytes.isTerminator b = true := by
  have hbyte := endsRead_ofNat_iff b.toNat (UInt8.lt_iff_toNat_lt.mp hb)
  rwa [UInt8.ofNat_toNat] at hbyte

theorem ascii_of_isTerminator {b : UInt8} (hb : Bytes.isTerminator b = true) : b < 0x80 := by
  rcases Bytes.isTerminator_iff.mp hb with rfl | rfl | rfl <;> decide

/-- A sequence that is broken off never ends a read. -/
theorem not_endsRead_of_broken (d : Decoder) : ∀ k ∈ d.broken, ¬ endsRead k.typed := by
  intro k hk
  cases d with
  | idle => cases hk
  | within seen lead =>
    rw [List.mem_singleton.mp hk]
    show ¬ endsRead Utf8.replacement
    decide

/-- No other byte delivers a key that ends a read, whatever the decoder holds back. -/
theorem not_endsRead_of_push {d : Decoder} (hd : d.Proper) {b : UInt8}
    (hb : Bytes.isTerminator b = false) : ∀ k ∈ (d.push b).1, ¬ endsRead k.typed := by
  intro k hk
  by_cases hascii : b < 0x80
  · rw [Decoder.push_ascii hd hascii] at hk
    rcases List.mem_append.mp hk with hk | hk
    · exact not_endsRead_of_broken d k hk
    · rw [List.mem_singleton.mp hk]
      show ¬ endsRead (Char.ofNat b.toNat)
      rw [endsRead_ascii_iff hascii, hb]
      exact Bool.false_ne_true
  · -- the key is not ASCII, and the keys that end a read are
    have hlarge := (Decoder.push_not_ascii hd hascii).2 k hk
    intro hends
    rcases hends with h | h | h <;> (rw [h] at hlarge; exact absurd hlarge (by decide))

/-- A read between two bytes, onto an output without limits. -/
structure Progress.Open (p : Progress) : Prop where
  output : p.output = .unlimited p.output.flushed
  decoder : p.decoder.Proper

/-- **A byte that is no terminator** never ends a read. -/
theorem take_of_not_terminator (e : Editor) {p : Progress} (hp : p.Open) {b : UInt8}
    (hb : Bytes.isTerminator b = false) :
    ∃ q, p.take e b = (q, none) ∧ q.Open ∧ q.consumed = p.consumed + 1 := by
  have hkeys := not_endsRead_of_push hp.decoder hb
  obtain ⟨q, hq, hkept⟩ := pressAll_of_not_endsRead e
    (p := { p with decoder := (p.decoder.push b).2, consumed := p.consumed + 1 }) hp.output hkeys
  refine ⟨q, hq, ⟨hkept.output, ?_⟩, hkept.consumed⟩
  rw [hkept.decoder]
  exact Decoder.push_proper hp.decoder b

/-- What a read that ends with the terminator `b` returns. -/
def EndsWith (b : UInt8) (r : Except Failure ReadOutcome) : Prop :=
  if b = Bytes.interrupt then r = .ok .interrupted else ∃ line, r = .ok (.line line)

/-- **A terminator** always ends the read: it is the last key of its byte, and nothing of it is left
    in the decoder. -/
theorem take_of_terminator (e : Editor) {p : Progress} (hp : p.Open) {b : UInt8}
    (hb : Bytes.isTerminator b = true) :
    ∃ q r, p.take e b = (q, some r) ∧ EndsWith b r ∧ q.decoder = .idle ∧
      q.output = .unlimited q.output.flushed ∧ q.consumed = p.consumed + 1 := by
  have hascii := ascii_of_isTerminator hb
  have hends : endsRead (Key.char (Char.ofNat b.toNat)).typed := (endsRead_ascii_iff hascii).mpr hb
  -- what is held back is broken off first, and the terminator is the key behind it
  obtain ⟨q, s, x, hq, hx, hkept⟩ := pressAll_of_endsRead e
    (p := { p with decoder := .idle, consumed := p.consumed + 1 }) hp.output
    (not_endsRead_of_broken p.decoder) hends
  refine ⟨q, .ok x, ?_, ?_, hkept.decoder, hkept.output, hkept.consumed⟩
  · unfold Progress.take
    rw [Decoder.push_ascii hp.decoder hascii]
    exact hq
  · rcases Bytes.isTerminator_iff.mp hb with rfl | rfl | rfl
    · exact congrArg Except.ok (Option.some.inj hx).symm
    · exact ⟨s.buffer, congrArg Except.ok (Option.some.inj hx).symm⟩
    · exact ⟨s.buffer, congrArg Except.ok (Option.some.inj hx).symm⟩

end Editor

end CommandShell
