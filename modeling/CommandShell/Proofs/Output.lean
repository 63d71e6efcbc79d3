import CommandShell.Output

/-!
# `CommandShell.Proofs.Output` — what an output accepts

An output without limits accepts every write and every flush, so that after a flush it is nothing
but the text that it was given; any output accepts a write as a whole or with a fault. What it
accepted earlier plays no part in what it does.

## Contents
- **Without limits.** `Output.unlimited`; `write_unlimited` and `flush_unlimited`. `AcceptsAll` is said
  of an output that may still have something to flush, and `Grows` of what it accepts.
- **With limits.** `text_write_of_accepted`, a write that is not refused; `writeParts_eq`, a write in parts.
  `Output.limited` has room for so many bytes and flushes; `Fits` is said of texts that it accepts, `spent` is
  what they leave of it, and `Refusal` is what becomes of the first text that does not fit.
- **Earlier text.** `Output.after` puts a text before all that was flushed; `write_after` and
  `flush_after` say that neither operation looks at it.
-/

namespace CommandShell

namespace Output

/-! ## Without limits -/

/-- An output that accepts everything, with this text flushed and nothing left to flush. -/
def unlimited (shown : Bytes) : Output := { flushed := shown }

@[simp] theorem text_unlimited (shown : Bytes) : (unlimited shown).text = shown :=
  List.append_nil shown

theorem write_unlimited (shown bs : Bytes) :
    (unlimited shown).write bs = ({ flushed := shown, unflushed := bs }, none) := rfl

/-- A flush of what was just written leaves an output without limits again. -/
theorem flush_unlimited (shown bs : Bytes) :
    Output.flush { flushed := shown, unflushed := bs } = (unlimited (shown ++ bs), none) := rfl

/-- An output that accepts everything from now on. -/
structure AcceptsAll (o : Output) : Prop where
  writes : o.writeRoom = none
  flushes : o.flushRoom = none

theorem acceptsAll_unlimited (shown : Bytes) : (unlimited shown).AcceptsAll := ⟨rfl, rfl⟩

/-- The output `o'` is `o` after it has accepted a text; it accepts everything still. -/
structure Grows (o o' : Output) (bs : Bytes) : Prop where
  acceptsAll : o'.AcceptsAll
  text : o'.text = o.text ++ bs

theorem Grows.refl {o : Output} (h : o.AcceptsAll) : o.Grows o [] := ⟨h, (List.append_nil _).symm⟩

theorem Grows.trans {o o' o'' : Output} {bs bs' : Bytes} (h : o.Grows o' bs)
    (h' : o'.Grows o'' bs') : o.Grows o'' (bs ++ bs') :=
  ⟨h'.acceptsAll, by rw [h'.text, h.text, List.append_assoc]⟩

/-- An output that accepts everything takes a write as a whole. -/
theorem AcceptsAll.write_eq {o : Output} (h : o.AcceptsAll) (bs : Bytes) :
    o.write bs = ({ o with unflushed := o.unflushed ++ bs }, none) := by rw [write, h.writes]

/-- An output that accepts everything takes a flush, and has nothing left to flush then. -/
theorem AcceptsAll.flush_eq {o : Output} (h : o.AcceptsAll) : o.flush = (unlimited o.text, none) := by
  obtain ⟨flushed, unflushed, writeRoom, flushRoom⟩ := o
  obtain ⟨rfl, rfl⟩ := h
  rfl

theorem AcceptsAll.grows_write {o : Output} (h : o.AcceptsAll) (bs : Bytes) :
    o.Grows (o.write bs).1 bs := by
  rw [h.write_eq]
  exact ⟨⟨h.writes, h.flushes⟩, (List.append_assoc ..).symm⟩

theorem AcceptsAll.grows_flush {o : Output} (h : o.AcceptsAll) : o.Grows o.flush.1 [] := by
  rw [h.flush_eq]
  exact ⟨acceptsAll_unlimited _, rfl⟩

/-! ## With limits -/

/-- **A write without a fault** adds the whole text. -/
theorem text_write_of_accepted {o : Output} {bs : Bytes} (h : (o.write bs).2 = none) :
    (o.write bs).1.text = o.text ++ bs := by
  have hfits : bs.length ≤ o.writeRoom.getD bs.length := by
    unfold write at h
    split at h
    · next hroom =>
      rw [hroom]
      exact Nat.le_refl _
    · next room hroom =>
      split at h
      · next hle =>
        rw [hroom]
        exact hle
      · cases h
  rw [text_write, List.take_of_length_le hfits]

/-- Writes some texts one after the other, up to the first one that is refused. -/
def writeParts (o : Output) : List Bytes → Output × Option Fault
  | [] => (o, none)
  | t :: ts =>
    match o.write t with
    | (written, some fault) => (written, some fault)
    | (written, none) => writeParts written ts

/-- A write may be made in two parts. -/
theorem write_append (o : Output) (a b : Bytes) :
    o.write (a ++ b) =
      match o.write a with
      | (written, some fault) => (written, some fault)
      | (written, none) => written.write b := by
  obtain ⟨flushed, unflushed, writeRoom, flushRoom⟩ := o
  cases writeRoom with
  | none => simp [write]
  | some room =>
    by_cases hfirst : a.length ≤ room
    · by_cases hboth : a.length + b.length ≤ room
      · have hsecond : b.length ≤ room - a.length := by omega
        simp [write, hfirst, hboth, hsecond, Nat.sub_sub]
      · have hsecond : ¬ b.length ≤ room - a.length := by omega
        simp [write, hfirst, hboth, hsecond, List.take_append, List.take_of_length_le hfirst]
    · -- the second part is not even begun
      have hboth : ¬ a.length + b.length ≤ room := by omega
      have hnone : room - a.length = 0 := by omega
      simp [write, hfirst, hboth, List.take_append, hnone]

/-- **A write may be made in parts**, however the text is cut. -/
theorem writeParts_eq (o : Output) (ts : List Bytes) : o.writeParts ts = o.write ts.flatten := by
  induction ts generalizing o with
  | nil =>
    obtain ⟨flushed, unflushed, writeRoom, flushRoom⟩ := o
    cases writeRoom <;> simp [writeParts, write]
  | cons t ts ih =>
    rw [List.flatten_cons, write_append, writeParts]
    simp only [ih]

/-- An output with room for so many bytes and so many flushes, with this text flushed and nothing left to
    flush. -/
def limited (shown : Bytes) (writes flushes : Option Nat) : Output :=
  { flushed := shown, writeRoom := writes, flushRoom := flushes }

/-- Within these limits the texts can be written and flushed one after the other. -/
structure Fits (writes flushes : Option Nat) (texts : List Bytes) : Prop where
  writes : ∀ n ∈ writes, texts.flatten.length ≤ n
  flushes : ∀ n ∈ flushes, texts.length ≤ n

/-- What some texts leave of an output with limits. -/
def spent (shown : Bytes) (writes flushes : Option Nat) (texts : List Bytes) : Output :=
  limited (shown ++ texts.flatten) (writes.map (· - texts.flatten.length))
    (flushes.map (· - texts.length))

variable {shown t : Bytes} {writes flushes : Option Nat} {texts texts' : List Bytes}

/-- Everything fits without limits. -/
theorem fits_none (texts : List Bytes) : Fits none none texts := ⟨nofun, nofun⟩

/-- No texts always fit. -/
theorem fits_nil : Fits writes flushes [] := ⟨fun n _ => n.zero_le, fun n _ => n.zero_le⟩

/-- The first of some texts fit if all of them do. -/
theorem Fits.of_isPrefix (h : Fits writes flushes texts') (hpre : texts <+: texts') :
    Fits writes flushes texts := by
  obtain ⟨more, rfl⟩ := hpre
  constructor
  · intro n hn
    have hle := h.writes n hn
    rw [List.flatten_append, List.length_append] at hle
    omega
  · intro n hn
    have hle := h.flushes n hn
    rw [List.length_append] at hle
    omega

theorem spent_nil : spent shown writes flushes [] = limited shown writes flushes := by
  simp [spent]

/-- An output with limits that has accepted some texts, and of another one only what is written. -/
def pending (shown : Bytes) (flushes : Option Nat) (texts : List Bytes) (part : Bytes)
    (writeRoom : Option Nat) : Output :=
  { flushed := shown ++ texts.flatten
    unflushed := part
    writeRoom := writeRoom
    flushRoom := flushes.map (· - texts.length) }

/-- What becomes of an output with limits that refuses a text behind some that fit. -/
inductive Refusal (shown : Bytes) (writes flushes : Option Nat) (texts : List Bytes) (t : Bytes) :
    Output → Fault → Prop where
  /-- As much of the text is written as there is room for. -/
  | write {n : Nat} (hwrites : writes = some n) (hlt : n < (texts ++ [t]).flatten.length) :
      Refusal shown writes flushes texts t
        (pending shown flushes texts (t.take (n - texts.flatten.length)) (some 0)) writeRefused
  /-- The text is written, and stays unflushed. -/
  | flush (hwrites : ∀ n ∈ writes, (texts ++ [t]).flatten.length ≤ n)
      (hflushes : flushes = some texts.length) :
      Refusal shown writes flushes texts t
        (pending shown flushes texts t (writes.map (· - (texts ++ [t]).flatten.length))) flushRefused

/-- A text that there is room for behind others is written. -/
theorem write_spent (h : ∀ n ∈ writes, (texts ++ [t]).flatten.length ≤ n) :
    (spent shown writes flushes texts).write t =
      (pending shown flushes texts t (writes.map (· - (texts ++ [t]).flatten.length)), none) := by
  cases writes with
  | none => rfl
  | some n =>
    have hle := h n rfl
    simp only [List.flatten_append, List.flatten_singleton, List.length_append] at hle
    have hroom : t.length ≤ n - texts.flatten.length := by omega
    simp [write, spent, limited, pending, hroom, Nat.sub_sub, -List.length_flatten]

/-- Of a text that there is no room for behind others, a start is written. -/
theorem write_spent_of_lt {n : Nat} (hfits : texts.flatten.length ≤ n)
    (h : n < (texts ++ [t]).flatten.length) :
    (spent shown (some n) flushes texts).write t =
      (pending shown flushes texts (t.take (n - texts.flatten.length)) (some 0),
        some writeRefused) := by
  simp only [List.flatten_append, List.flatten_singleton, List.length_append] at h
  have hroom : ¬ t.length ≤ n - texts.flatten.length := by omega
  simp [write, spent, limited, pending, hroom, -List.length_flatten]

/-- What is written is flushed if there is room for one more flush. -/
theorem flush_pending (h : ∀ n ∈ flushes, (texts ++ [t]).length ≤ n) (writes : Option Nat) :
    (pending shown flushes texts t (writes.map (· - (texts ++ [t]).flatten.length))).flush =
      (spent shown writes flushes (texts ++ [t]), none) := by
  cases flushes with
  | none => simp [flush, spent, limited, pending]
  | some n =>
    have hle := h n rfl
    rw [List.length_append, List.length_singleton] at hle
    obtain ⟨k, rfl⟩ := Nat.exists_eq_add_of_le hle
    have hroom : texts.length + 1 + k - texts.length = k + 1 := by omega
    simp [flush, spent, limited, pending, hroom]

/-- **A text that does not fit** behind texts that fit is refused when it is written, or when it is
    flushed. -/
theorem refusal_of_not_fits (shown : Bytes) (h : Fits writes flushes texts)
    (h' : ¬ Fits writes flushes (texts ++ [t])) :
    (∃ o fault, (spent shown writes flushes texts).write t = (o, some fault) ∧
        Refusal shown writes flushes texts t o fault) ∨
      ∃ written o fault, (spent shown writes flushes texts).write t = (written, none) ∧
        written.flush = (o, some fault) ∧ Refusal shown writes flushes texts t o fault := by
  by_cases hwrites : ∀ n ∈ writes, (texts ++ [t]).flatten.length ≤ n
  · -- there is room for the text, and so it is the flush that is one too many
    right
    have hfull : flushes = some texts.length := by
      cases flushes with
      | none => exact absurd ⟨hwrites, nofun⟩ h'
      | some n =>
        have hle := h.flushes n rfl
        have hlt : ¬ (texts ++ [t]).length ≤ n := by
          intro hroom
          refine h' ⟨hwrites, ?_⟩
          rintro _ ⟨⟩
          exact hroom
        rw [List.length_append, List.length_singleton] at hlt
        exact congrArg some (by omega)
    refine ⟨_, _, _, write_spent hwrites, ?_, .flush hwrites hfull⟩
    simp [flush, pending, hfull]
  · left
    simp only [Classical.not_forall, Nat.not_le] at hwrites
    obtain ⟨n, hn, hlt⟩ := hwrites
    obtain rfl : writes = some n := hn
    exact ⟨_, _, write_spent_of_lt (h.writes n rfl) hlt, .write rfl hlt⟩

/-- The texts before are flushed, one after the other, and nothing else is. -/
theorem Refusal.kept {o : Output} {fault : Fault} (h : Refusal shown writes flushes texts t o fault) :
    o.flushed = shown ++ texts.flatten ∧ o.flushRoom = flushes.map (· - texts.length) := by
  cases h <;> exact ⟨rfl, rfl⟩

/-- What is accepted when a text is refused: all that there is room for, or all with that text. -/
theorem Refusal.text {o : Output} {fault : Fault} (h : Refusal shown writes flushes texts t o fault)
    (hfits : Fits writes flushes texts) (more : List Bytes) :
    (∃ n, writes = some n ∧ n < (texts ++ [t]).flatten.length ∧ fault = writeRefused ∧
        o.text = shown ++ (texts ++ t :: more).flatten.take n) ∨
      (∀ n ∈ writes, (texts ++ [t]).flatten.length ≤ n) ∧ flushes = some texts.length ∧
        fault = flushRefused ∧ o.text = shown ++ (texts ++ [t]).flatten := by
  cases h with
  | @write n hwrites hlt =>
    refine .inl ⟨n, hwrites, hlt, rfl, ?_⟩
    have hle := hfits.writes n hwrites
    simp only [List.flatten_append, List.flatten_singleton, List.length_append] at hlt
    have hpart : n - texts.flatten.length - t.length = 0 := by omega
    simp [Output.text, pending, List.take_append, List.take_of_length_le hle, hpart, -List.length_flatten]
  | flush hwrites hflushes =>
    refine .inr ⟨hwrites, hflushes, rfl, ?_⟩
    simp [Output.text, pending]

/-! ## Earlier text -/

/-- The output with `earlier` before all that it has accepted. -/
def after (earlier : Bytes) (o : Output) : Output := { o with flushed := earlier ++ o.flushed }

@[simp] theorem after_unlimited (earlier shown : Bytes) :
    after earlier (unlimited shown) = unlimited (earlier ++ shown) := rfl

/-- A write does not look at what was flushed. -/
theorem write_after (earlier : Bytes) (o : Output) (bs : Bytes) :
    (after earlier o).write bs = (after earlier (o.write bs).1, (o.write bs).2) := by
  obtain ⟨flushed, unflushed, writeRoom, flushRoom⟩ := o
  cases writeRoom with
  | none => rfl
  | some room =>
    unfold write after
    dsimp only
    by_cases hfits : bs.length ≤ room
    · rw [if_pos hfits, if_pos hfits]
    · rw [if_neg hfits, if_neg hfits]

/-- A flush adds to what was flushed, whatever that is. -/
theorem flush_after (earlier : Bytes) (o : Output) :
    (after earlier o).flush = (after earlier o.flush.1, o.flush.2) := by
  obtain ⟨flushed, unflushed, writeRoom, flushRoom⟩ := o
  unfold flush after
  rcases flushRoom with _ | _ | room
  · dsimp only
    rw [List.append_assoc]
  · rfl
  · dsimp only
    rw [List.append_assoc]

end Output

end CommandShell
