import CommandShell.Proofs.Editor.Typing

/-!
# `CommandShell.Proofs.Editor.Faults` — an input that fails

An attempt to read a byte may fail. If it was only broken off, it is made again, and nothing of it is left:
not in the decoder, which may hold the start of a character, not in an escape sequence, and not in the count
of Tabs. Any other fault ends the read. The keys that were complete by then have acted, and the bytes of an
unfinished one are dropped.

## Contents
- **Interruptions.** `InputEvent.uninterrupted` deletes the interrupted attempts of an input;
  `readFrom_uninterrupted` for one read, on any output, and `reads_uninterrupted` for all reads.
- **Other faults.** `InputEvent.passes` is said of the events that do not end a read (`readFrom_passing`);
  `readFrom_unfinished` is a read that comes to the end of its input, and `readFrom_fault` compares a read that
  fails with it.
- **Summary.** `faults_cut_read`.
-/

namespace CommandShell

/-! ## Interruptions -/

namespace InputEvent

/-- An attempt to read a byte that was only broken off. -/
def isInterruption : InputEvent → Bool
  | .byte _ => false
  | .fault f => f.isInterruption

/-- The input without interrupted attempts. -/
def uninterrupted (input : List InputEvent) : List InputEvent := input.filter fun x => !x.isInterruption

@[simp] theorem uninterrupted_nil : uninterrupted [] = [] := rfl

@[simp] theorem uninterrupted_byte (b : UInt8) (input : List InputEvent) :
    uninterrupted (.byte b :: input) = .byte b :: uninterrupted input := rfl

theorem uninterrupted_interruption {f : Fault} (hf : f.isInterruption = true) (input : List InputEvent) :
    uninterrupted (.fault f :: input) = uninterrupted input := by
  simp [uninterrupted, isInterruption, hf]

theorem uninterrupted_fault {f : Fault} (hf : ¬ f.isInterruption = true) (input : List InputEvent) :
    uninterrupted (.fault f :: input) = .fault f :: uninterrupted input := by
  simp [uninterrupted, isInterruption, hf]

/-- The events that do not end a read: bytes but for terminators, and interrupted attempts. -/
def passes : InputEvent → Bool
  | .byte b => !Bytes.isTerminator b
  | .fault f => f.isInterruption

end InputEvent

namespace Editor

open InputEvent (bytes uninterrupted)
open Bytes (isTerminator)

/-- The read of an input whose rest comes without interrupted attempts. -/
def Read.uninterrupted (r : Read) : Read := r.leaving (InputEvent.uninterrupted r.rest)

/-- **Interrupted attempts** make no difference to a read, wherever it stands and whatever its output. -/
theorem readFrom_uninterrupted (e : Editor) (p : Progress) (input : List InputEvent) :
    Progress.readFrom e p (uninterrupted input) = (Progress.readFrom e p input).uninterrupted := by
  induction input generalizing p with
  | nil => rfl
  | cons event input ih =>
    cases event with
    | fault f =>
      by_cases hf : f.isInterruption = true
      · rw [InputEvent.uninterrupted_interruption hf, Progress.readFrom, if_pos hf]
        exact ih p
      · rw [InputEvent.uninterrupted_fault hf, Progress.readFrom, Progress.readFrom, if_neg hf, if_neg hf]
        rfl
    | byte b =>
      rw [InputEvent.uninterrupted_byte, Progress.readFrom, Progress.readFrom]
      rcases p.take e b with ⟨q, ending | _⟩
      · exact ih q
      · rfl

/-- **All reads** of an input are those of the input without interrupted attempts. -/
theorem reads_uninterrupted (e : Editor) (n : Nat) (output : Output) (consumed : Nat)
    (input : List InputEvent) :
    e.reads n output consumed (uninterrupted input) =
      (e.reads n output consumed input).map Read.uninterrupted := by
  induction n generalizing output consumed input with
  | zero => rfl
  | succ n ih =>
    have hread : e.readFrom output consumed (uninterrupted input) =
        (e.readFrom output consumed input).uninterrupted := readFrom_uninterrupted e _ input
    by_cases hgoes : (e.readFrom output consumed input).goesOn = true
    · rw [reads_of_goesOn e n hread hgoes, reads_of_goesOn e n rfl hgoes, List.map_cons, ← ih]
      rfl
    · have hends : (e.readFrom output consumed input).goesOn = false := Bool.eq_false_iff.mpr hgoes
      have hends' : (e.readFrom output consumed (uninterrupted input)).goesOn = false := by
        rw [hread]
        exact hends
      rw [reads_of_not_goesOn e n hends', reads_of_not_goesOn e n hends, hread]
      rfl

/-! ## Other faults -/

variable {before : List InputEvent}

theorem not_isTerminator_of_passes (hbefore : ∀ x ∈ before, x.passes = true) :
    ∀ b ∈ bytes before, isTerminator b = false := by
  intro b hb
  obtain ⟨x, hx, hbyte⟩ := List.mem_filterMap.mp hb
  have hpasses := hbefore x hx
  cases x with
  | fault f => cases hbyte
  | byte b' =>
    obtain rfl : b' = b := Option.some.inj hbyte
    simpa [InputEvent.passes] using hpasses

/-- Of the events that do not end a read, only the bytes count. -/
theorem readFrom_passing (e : Editor) {p : Progress} (hp : p.Open)
    (hbefore : ∀ x ∈ before, x.passes = true) (input : List InputEvent) :
    Progress.readFrom e p (before ++ input) =
      Progress.readFrom e p (InputEvent.ofBytes (bytes before) ++ input) := by
  induction before generalizing p with
  | nil => rfl
  | cons event before ih =>
    have hevent := hbefore event List.mem_cons_self
    have hrest : ∀ x ∈ before, x.passes = true := fun x hx => hbefore x (List.mem_cons_of_mem event hx)
    cases event with
    | fault f =>
      have hf : f.isInterruption = true := hevent
      rw [List.cons_append, Progress.readFrom, if_pos hf, InputEvent.bytes_fault]
      exact ih hp hrest
    | byte b =>
      have hb : isTerminator b = false := by simpa [InputEvent.passes] using hevent
      obtain ⟨q, htake, hq, -⟩ := take_of_not_terminator e hp hb
      rw [InputEvent.bytes_byte]
      show Progress.readFrom e p (.byte b :: (before ++ input)) =
        Progress.readFrom e p (.byte b :: (InputEvent.ofBytes (bytes before) ++ input))
      rw [Progress.readFrom, Progress.readFrom, htake]
      exact ih hq hrest

/-- **Bytes without a terminator, and nothing behind them**: all bytes are taken, the keys that they complete
    have acted, and the input is found at its end. -/
theorem readFrom_unfinished (e : Editor) (shown : Bytes) (consumed : Nat) {bs : Bytes}
    (hbs : ∀ b ∈ bs, isTerminator b = false) :
    let r := e.readFrom (.unlimited shown) consumed (InputEvent.ofBytes bs)
    r.ending = .error .inputClosed ∧ r.consumed = consumed + bs.length ∧
      r.output = .unlimited
        (shown ++ Utf8.encode (({} : Typing).keys e (Decoder.keys bs)).shown) := by
  intro r
  obtain ⟨p, hp, hconsumed, hbody⟩ := readFrom_body e (open_start shown consumed) hbs
  have hr : r = p.finish (.error .inputClosed) [] := by
    have hnil := hbody []
    rw [List.append_nil] at hnil
    exact hnil
  have hstart : Progress.Follows { output := .unlimited shown, consumed := consumed } shown {} :=
    ⟨rfl, (Output.text_unlimited shown).trans (List.append_nil shown).symm, rfl⟩
  obtain ⟨q, hfollows, -, -, hread⟩ :=
    (readFrom_follows (e := e) hstart trivial hbs []).resolve_left (not_refuses_unlimited shown _)
  have hq : r = q.finish (.error .inputClosed) [] := by
    rw [List.append_nil] at hread
    exact hread
  -- both of them are the moment at which the bytes have been taken
  have houtput : p.output = q.output := congrArg Read.output (hr.symm.trans hq)
  have hflushed : p.output.flushed = shown ++ Utf8.encode (({} : Typing).keys e (Decoder.keys bs)).shown := by
    rw [← Output.text_unlimited p.output.flushed, ← hp.output, houtput]
    exact hfollows.text
  rw [hr]
  refine ⟨rfl, hconsumed, ?_⟩
  show p.output = _
  rw [hp.output, hflushed]

/-- **A fault that is no interruption** ends a read as the end of the input would, with another ending. -/
theorem readFrom_fault (e : Editor) (shown : Bytes) (consumed : Nat)
    (hbefore : ∀ x ∈ before, x.passes = true) {f : Fault} (hf : f.isInterruption = false)
    (rest : List InputEvent) :
    e.readFrom (.unlimited shown) consumed (before ++ .fault f :: rest) =
      { e.readFrom (.unlimited shown) consumed (InputEvent.ofBytes (bytes before)) with
        ending := .error (.input f), rest := rest } := by
  obtain ⟨q, -, -, hbody⟩ :=
    readFrom_body e (open_start shown consumed) (not_isTerminator_of_passes hbefore)
  have hclosed : e.readFrom (.unlimited shown) consumed (InputEvent.ofBytes (bytes before)) =
      q.finish (.error .inputClosed) [] := by
    have hnil := hbody []
    rw [List.append_nil] at hnil
    exact hnil
  have hfault : e.readFrom (.unlimited shown) consumed (before ++ .fault f :: rest) =
      q.finish (.error (.input f)) rest := by
    unfold readFrom
    rw [readFrom_passing e (open_start shown consumed) hbefore, hbody, Progress.readFrom,
      if_neg (Bool.eq_false_iff.mp hf)]
  rw [hfault, hclosed]
  rfl

/-! ## Summary -/

/-- **Interrupted attempts leave no trace, and any other fault cuts a read.** A read, and any number of reads
    in a row, end in the same way, show the same text at the same moments and take the same bytes if all
    interrupted attempts are deleted from the input; what the reads leave of the input is the same but for
    interrupted attempts. A read that meets another fault before a terminator ends with just this fault. It
    has taken the bytes before the fault and nothing behind it, and it has shown what the read of these bytes
    alone shows: what the keys do that are complete with them. -/
theorem faults_cut_read (e : Editor) :
    (∀ output consumed input, e.readFrom output consumed (uninterrupted input) =
        (e.readFrom output consumed input).uninterrupted) ∧
      (∀ n output consumed input, e.reads n output consumed (uninterrupted input) =
        (e.reads n output consumed input).map Read.uninterrupted) ∧
      ∀ shown consumed (before : List InputEvent) (f : Fault) (rest : List InputEvent),
        (∀ x ∈ before, x.passes = true) → f.isInterruption = false →
        let r := e.readFrom (.unlimited shown) consumed (before ++ .fault f :: rest)
        let keys := Decoder.keys (bytes before)
        r.ending = .error (.input f) ∧ r.rest = rest ∧
          r.consumed = consumed + (bytes before).length ∧
          r.output = .unlimited (shown ++ Utf8.encode (({} : Typing).keys e keys).shown) ∧
          r.echoes =
            (e.readFrom (.unlimited shown) consumed (InputEvent.ofBytes (bytes before))).echoes := by
  refine ⟨fun _ _ => readFrom_uninterrupted e _, reads_uninterrupted e, ?_⟩
  intro shown consumed before f rest hbefore hf r keys
  obtain ⟨-, hconsumed, houtput⟩ :=
    readFrom_unfinished e shown consumed (not_isTerminator_of_passes hbefore)
  have hread : r = _ := readFrom_fault e shown consumed hbefore hf rest
  rw [hread]
  exact ⟨rfl, rfl, hconsumed, houtput, rfl⟩

/-- A fault between the two bytes of a character, and two interrupted attempts before it: the first byte of the
    character is taken, and nothing of it is shown. -/
theorem faults_cut_read_character :
    let e : Editor := ⟨.ofNames ["cat".toList, "car".toList], "$ ".toList⟩
    let before : List InputEvent :=
      [.byte 0x63, .byte 0x61, .fault .callInterrupted, .byte 0x09, .byte 0xC3, .fault FaultKind.interrupted]
    let rest : List InputEvent := [.byte 0xA9, .byte 0x0D]
    let r := e.readFrom (.unlimited []) 0 (before ++ .fault (.system 5) :: rest)
    (∀ x ∈ before, x.passes = true) ∧ Fault.isInterruption (.system 5) = false ∧
      r.ending = .error (.input (.system 5)) ∧ r.rest = rest ∧ r.consumed = 4 ∧
      r.output = .unlimited [0x63, 0x61, 0x07] ∧
      r.echoes = [⟨1, [0x63]⟩, ⟨2, [0x61]⟩, ⟨3, [0x07]⟩] := by
  intro e before rest r
  have hbefore : ∀ x ∈ before, x.passes = true := by decide
  have hfault : Fault.isInterruption (.system 5) = false := by decide
  obtain ⟨-, -, hcut⟩ := faults_cut_read e
  obtain ⟨hending, hrest, hconsumed, houtput, hechoes⟩ := hcut [] 0 before (.system 5) rest hbefore hfault
  exact ⟨hbefore, hfault, hending, hrest, hconsumed, houtput.trans (by decide), hechoes.trans (by decide)⟩

end Editor

end CommandShell
