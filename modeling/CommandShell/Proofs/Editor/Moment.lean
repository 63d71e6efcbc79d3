import CommandShell.Editor.Read

/-!
# `CommandShell.Proofs.Editor.Moment` — a read, one key at a time

A read as a sequence of moments: a byte is taken when no decoded key is waiting, and a waiting key is
handled. What holds at every moment of a read is proved along these steps, which are just the ones
that the read makes: it returns what every moment of it leads to, and it comes to its last one.

## Contents
- **Steps.** `Moment`, `Moment.Step`, `Moment.Reaches`, and `Moment.Ends` for the last moment.
- **Adequacy.** `Moment.outcome_of_reaches` and `Moment.reaches_end` relate the steps to the read.
-/

namespace CommandShell

namespace Editor

/-! ## Steps -/

/-- A read between two keys. -/
structure Moment where
  /-- What the read has come to so far. -/
  progress : Progress
  /-- The keys that are decoded and still to be handled. -/
  keys : List Key
  /-- The input that is still to come. -/
  input : List InputEvent

namespace Moment

/-- The start of a read, as in `Editor.readFrom`. -/
def start (output : Output) (consumed : Nat) (input : List InputEvent) : Moment :=
  ⟨{ output := output, consumed := consumed }, [], input⟩

/-- The read when a byte is taken and its keys are still to be handled. -/
def push (p : Progress) (b : UInt8) : Progress :=
  { p with decoder := (p.decoder.push b).2, consumed := p.consumed + 1 }

/-- One step of a read that goes on. -/
inductive Step (e : Editor) : Moment → Moment → Prop where
  /-- A key is handled and does not end the read. -/
  | key {p q : Progress} {key : Key} {keys : List Key} {input : List InputEvent}
      (h : p.press e key = (q, none)) : Step e ⟨p, key :: keys, input⟩ ⟨q, keys, input⟩
  /-- A byte is taken. -/
  | byte {p : Progress} {b : UInt8} {input : List InputEvent} :
      Step e ⟨p, [], .byte b :: input⟩ ⟨push p b, (p.decoder.push b).1, input⟩
  /-- An attempt to take a byte is interrupted, and is made again. -/
  | retry {p : Progress} {f : Fault} {input : List InputEvent} (h : f.isInterruption = true) :
      Step e ⟨p, [], .fault f :: input⟩ ⟨p, [], input⟩

/-- Any number of steps. -/
inductive Reaches (e : Editor) : Moment → Moment → Prop where
  | refl {m : Moment} : Reaches e m m
  | tail {m m' m'' : Moment} : Reaches e m m' → Step e m' m'' → Reaches e m m''

/-- The last moment of a read, and what the read returns. -/
inductive Ends (e : Editor) : Moment → Read → Prop where
  /-- A key ends the read. -/
  | key {p q : Progress} {key : Key} {keys : List Key} {input : List InputEvent}
      {ending : Except Failure ReadOutcome} (h : p.press e key = (q, some ending)) :
      Ends e ⟨p, key :: keys, input⟩ (q.finish ending input)
  /-- The input is at its end. -/
  | closed {p : Progress} : Ends e ⟨p, [], []⟩ (p.finish (.error .inputClosed) [])
  /-- The input fails. -/
  | fault {p : Progress} {f : Fault} {input : List InputEvent} (h : ¬ f.isInterruption = true) :
      Ends e ⟨p, [], .fault f :: input⟩ (p.finish (.error (.input f)) input)

/-- What the read returns, seen from a moment of it. -/
def outcome (e : Editor) (m : Moment) : Read :=
  match m.progress.pressAll e m.keys with
  | (q, some ending) => q.finish ending m.input
  | (q, none) => Progress.readFrom e q m.input

variable {e : Editor} {m m' m'' : Moment} {r : Read}

theorem Reaches.trans (h : Reaches e m m') (h' : Reaches e m' m'') : Reaches e m m'' := by
  induction h' with
  | refl => exact h
  | tail _ hstep ih => exact .tail ih hstep

theorem Reaches.head (h : Step e m m') (h' : Reaches e m' m'') : Reaches e m m'' :=
  .trans (.tail .refl h) h'

/-! ## Adequacy -/

/-- A step does not change what the read returns. -/
theorem outcome_of_step (h : Step e m m') : m.outcome e = m'.outcome e := by
  cases h with
  | key h =>
    unfold outcome
    dsimp only
    rw [Progress.pressAll, h]
  | byte =>
    unfold outcome
    show Progress.readFrom e _ (_ :: _) = _
    rw [Progress.readFrom]
    rfl
  | retry h =>
    unfold outcome
    show Progress.readFrom e _ (_ :: _) = _
    rw [Progress.readFrom, if_pos h]
    rfl

/-- **Every moment of a read** leads to what the read returns. -/
theorem outcome_of_reaches {output : Output} {consumed : Nat} {input : List InputEvent}
    (h : Reaches e (start output consumed input) m) :
    e.readFrom output consumed input = m.outcome e := by
  induction h with
  | refl => rfl
  | tail _ hstep ih => rw [ih, outcome_of_step hstep]

/-- At the last moment the read returns. -/
theorem outcome_of_ends (h : Ends e m r) : m.outcome e = r := by
  cases h with
  | key h =>
    unfold outcome
    dsimp only
    rw [Progress.pressAll, h]
  | closed => rfl
  | fault h =>
    unfold outcome
    show Progress.readFrom e _ (_ :: _) = _
    rw [Progress.readFrom, if_neg h]

/-- The read returns what its last moment returns. -/
theorem readFrom_of_ends {output : Output} {consumed : Nat} {input : List InputEvent}
    (h : Reaches e (start output consumed input) m) (h' : Ends e m r) :
    e.readFrom output consumed input = r :=
  (outcome_of_reaches h).trans (outcome_of_ends h')

/-- Waiting keys are handled one after the other, until one ends the read or none is left. -/
theorem reaches_keys (p : Progress) (keys : List Key) (input : List InputEvent) :
    (∃ m r, Reaches e ⟨p, keys, input⟩ m ∧ Ends e m r) ∨
      ∃ q, Reaches e ⟨p, keys, input⟩ ⟨q, [], input⟩ := by
  induction keys generalizing p with
  | nil => exact .inr ⟨p, .refl⟩
  | cons key keys ih =>
    rcases hpress : p.press e key with ⟨q, _ | ending⟩
    · rcases ih q with ⟨m, r, hm, hr⟩ | ⟨t, ht⟩
      · exact .inl ⟨m, r, .head (.key hpress) hm, hr⟩
      · exact .inr ⟨t, .head (.key hpress) ht⟩
    · exact .inl ⟨_, _, .refl, .key hpress⟩

/-- A read comes to its end from every moment without waiting keys. -/
theorem reaches_end_of_input (p : Progress) (input : List InputEvent) :
    ∃ m r, Reaches e ⟨p, [], input⟩ m ∧ Ends e m r := by
  induction input generalizing p with
  | nil => exact ⟨_, _, .refl, .closed⟩
  | cons event input ih =>
    cases event with
    | fault f =>
      by_cases hf : f.isInterruption = true
      · obtain ⟨m, r, hm, hr⟩ := ih p
        exact ⟨m, r, .head (.retry hf) hm, hr⟩
      · exact ⟨_, _, .refl, .fault hf⟩
    | byte b =>
      -- the keys of this byte come first, and one of them may end the read
      rcases reaches_keys (push p b) (p.decoder.push b).1 input with ⟨m, r, hm, hr⟩ | ⟨q, hq⟩
      · exact ⟨m, r, .head .byte hm, hr⟩
      · obtain ⟨m, r, hm, hr⟩ := ih q
        exact ⟨m, r, .head .byte (hq.trans hm), hr⟩

/-- **The read comes to its last moment**, and returns there. -/
theorem reaches_end (e : Editor) (output : Output) (consumed : Nat) (input : List InputEvent) :
    ∃ m, Reaches e (start output consumed input) m ∧
      Ends e m (e.readFrom output consumed input) := by
  obtain ⟨m, r, hm, hr⟩ :=
    reaches_end_of_input (e := e) { output := output, consumed := consumed } input
  refine ⟨m, hm, ?_⟩
  rw [outcome_of_reaches hm, outcome_of_ends hr]
  exact hr

end Moment

end Editor

end CommandShell
