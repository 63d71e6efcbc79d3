import CommandShell.Proofs.Editor.Progress

/-!
# `CommandShell.Proofs.Editor.Reads` — reads cut the key stream at its terminators

One read after the other takes one segment of the key stream after the other. What a read returns
and shows is what it would return and show if its segment were all the input there is: nothing of
the bytes before it is left, neither in the decoder nor in an escape sequence, and nothing of its
own bytes is kept for later.

## Contents
- **One read.** `readFrom_body`, up to a terminator, and `readFrom_segment`.
- **Alone.** `Editor.alone` reads one part of the input on its own: `alone_segment` and
  `alone_remainder`.
- **All reads.** `Editor.readsApart` reads every part alone; `reads_eq_take` says that reading on is
  the same, and `reads_split` tells every single read.
-/

namespace CommandShell

namespace Editor

open Bytes (isTerminator IsSegment segments remainder)

/-! ## One read -/

/-- The read with other input left over. -/
def Read.leaving (r : Read) (rest : List InputEvent) : Read := { r with rest := rest }

theorem ofBytes_append (as bs : Bytes) :
    InputEvent.ofBytes (as ++ bs) = InputEvent.ofBytes as ++ InputEvent.ofBytes bs :=
  List.map_append

/-- Bytes that are no terminators are all taken, and the read goes on with what follows. -/
theorem readFrom_body (e : Editor) {p : Progress} (hp : p.Open) {body : Bytes}
    (hbody : ∀ b ∈ body, isTerminator b = false) :
    ∃ q : Progress, q.Open ∧ q.consumed = p.consumed + body.length ∧
      ∀ input, Progress.readFrom e p (InputEvent.ofBytes body ++ input) =
        Progress.readFrom e q input := by
  induction body generalizing p with
  | nil => exact ⟨p, hp, rfl, fun _ => rfl⟩
  | cons b body ih =>
    obtain ⟨q, htake, hq, hconsumed⟩ :=
      take_of_not_terminator e hp (hbody b List.mem_cons_self)
    obtain ⟨r, hr, hconsumed', hread⟩ := ih hq fun x hx => hbody x (List.mem_cons_of_mem b hx)
    refine ⟨r, hr, ?_, ?_⟩
    · rw [hconsumed', hconsumed, List.length_cons]
      omega
    · intro input
      show Progress.readFrom e p (.byte b :: (InputEvent.ofBytes body ++ input)) = _
      rw [Progress.readFrom, htake]
      exact hread input

/-- **A segment** is one read, whatever follows it. -/
theorem readFrom_segment (e : Editor) {p : Progress} (hp : p.Open) {s : Bytes} (hs : IsSegment s) :
    ∃ r : Read, r.consumed = p.consumed + s.length ∧ r.output = .unlimited r.output.flushed ∧
      (∃ last, s.getLast? = some last ∧ EndsWith last r.ending) ∧
      ∀ input, Progress.readFrom e p (InputEvent.ofBytes s ++ input) = r.leaving input := by
  obtain ⟨body, last, rfl, hbody, hlast⟩ := hs
  obtain ⟨q, hq, hconsumed, hread⟩ := readFrom_body e hp hbody
  obtain ⟨t, ending, htake, hends, -, houtput, hconsumed'⟩ := take_of_terminator e hq hlast
  refine ⟨t.finish ending [], ?_, houtput, ⟨last, List.getLast?_concat, hends⟩, ?_⟩
  · show t.consumed = _
    rw [hconsumed', hconsumed, List.length_append, List.length_singleton]
    omega
  · intro input
    rw [ofBytes_append, List.append_assoc, hread]
    show Progress.readFrom e q (.byte last :: input) = _
    rw [Progress.readFrom, htake]
    rfl

/-! ## Each part alone -/

/-- The read of a part of the input as if it were all the input. -/
def alone (e : Editor) (part : Bytes) : Read :=
  e.readFrom (.unlimited []) 0 (InputEvent.ofBytes part)

/-- A read at its start. -/
theorem open_start (shown : Bytes) (c : Nat) :
    Progress.Open { output := .unlimited shown, consumed := c } := ⟨rfl, trivial⟩

/-- Where a read starts makes no difference to what it does. -/
theorem readFrom_eq_after (e : Editor) (shown : Bytes) (c : Nat) (input : List InputEvent) :
    e.readFrom (.unlimited shown) c input =
      (e.readFrom (.unlimited []) 0 input).after shown c := by
  have hstart := readFrom_after e { output := .unlimited [], consumed := 0 } shown c input
  unfold readFrom
  rw [← hstart]
  unfold Progress.after
  rw [Output.after_unlimited, List.append_nil]
  rfl

/-- **A segment alone** is taken whole, and its terminator ends the read. -/
theorem alone_segment (e : Editor) {s : Bytes} (hs : IsSegment s) :
    (e.alone s).consumed = s.length ∧
      (e.alone s).output = .unlimited (e.alone s).output.flushed ∧
      (∃ last, s.getLast? = some last ∧ EndsWith last (e.alone s).ending) ∧
      ∀ input, e.readFrom (.unlimited []) 0 (InputEvent.ofBytes s ++ input) =
        (e.alone s).leaving input := by
  obtain ⟨r, hconsumed, houtput, hends, hread⟩ := readFrom_segment e (open_start [] 0) hs
  have halone : e.alone s = r.leaving [] := by
    have hnil := hread []
    rw [List.append_nil] at hnil
    exact hnil
  rw [Nat.zero_add] at hconsumed
  rw [halone]
  exact ⟨hconsumed, houtput, hends, hread⟩

/-- **A part without a terminator**, alone, is taken whole, and the input is found at its end. -/
theorem alone_remainder (e : Editor) {rest : Bytes} (hrest : ∀ b ∈ rest, isTerminator b = false) :
    (e.alone rest).ending = .error .inputClosed ∧ (e.alone rest).consumed = rest.length ∧
      (e.alone rest).rest = [] ∧
      (e.alone rest).output = .unlimited (e.alone rest).output.flushed := by
  obtain ⟨q, hq, hconsumed, hread⟩ := readFrom_body e (open_start [] 0) hrest
  have halone : e.alone rest = q.finish (.error .inputClosed) [] := by
    have hnil := hread []
    rw [List.append_nil] at hnil
    exact hnil
  rw [Nat.zero_add] at hconsumed
  rw [halone]
  exact ⟨rfl, hconsumed, rfl, hq.output⟩

/-- A segment that other input follows, read after others. -/
theorem readFrom_segment_eq (e : Editor) (shown : Bytes) (c : Nat) {s : Bytes} (hs : IsSegment s)
    (input : List InputEvent) :
    e.readFrom (.unlimited shown) c (InputEvent.ofBytes s ++ input) =
      ((e.alone s).after shown c).leaving input := by
  obtain ⟨-, -, -, hread⟩ := alone_segment e hs
  rw [readFrom_eq_after, hread]
  rfl

/-! ## All reads -/

/-- What the reads of these parts show, each of them alone. -/
def shownBy (e : Editor) (parts : List Bytes) : Bytes :=
  parts.flatMap fun part => (e.alone part).output.flushed

/-- Every part read alone, the results put one behind the other. -/
def readsApart (e : Editor) : Bytes → Nat → List Bytes → List Read
  | _, _, [] => []
  | shown, c, part :: parts =>
    ((e.alone part).after shown c).leaving (InputEvent.ofBytes parts.flatten) ::
      readsApart e (shown ++ (e.alone part).output.flushed) (c + part.length) parts

/-- Which part a read takes, and what was shown and taken before it. -/
theorem readsApart_getElem? (e : Editor) (shown : Bytes) (c : Nat) (parts : List Bytes) (k : Nat) :
    (e.readsApart shown c parts)[k]? = parts[k]?.map fun part =>
      ((e.alone part).after (shown ++ e.shownBy (parts.take k))
        (c + (parts.take k).flatten.length)).leaving
          (InputEvent.ofBytes (parts.drop (k + 1)).flatten) := by
  induction parts generalizing shown c k with
  | nil => rfl
  | cons part parts ih =>
    cases k with
    | zero =>
      have hshown : shown ++ e.shownBy ((part :: parts).take 0) = shown := List.append_nil shown
      rw [hshown]
      rfl
    | succ k =>
      have hshown : shown ++ (e.alone part).output.flushed ++ e.shownBy (parts.take k) =
          shown ++ e.shownBy ((part :: parts).take (k + 1)) := List.append_assoc ..
      have hlength : c + part.length + (parts.take k).flatten.length =
          c + ((part :: parts).take (k + 1)).flatten.length := by
        rw [List.take_succ_cons, List.flatten_cons, List.length_append, Nat.add_assoc]
      rw [readsApart, List.getElem?_cons_succ, ih, hshown, hlength, List.getElem?_cons_succ,
        List.drop_succ_cons]

theorem reads_of_not_goesOn (e : Editor) (n : Nat) {output : Output} {c : Nat}
    {input : List InputEvent} (h : (e.readFrom output c input).goesOn = false) :
    e.reads (n + 1) output c input = [e.readFrom output c input] := by
  have hnot : ¬ (e.readFrom output c input).goesOn = true := by
    rw [h]
    exact Bool.false_ne_true
  rw [reads]
  exact congrArg _ (if_neg hnot)

theorem reads_of_goesOn (e : Editor) (n : Nat) {output : Output} {c : Nat}
    {input : List InputEvent} {r : Read} (hr : e.readFrom output c input = r)
    (h : r.goesOn = true) :
    e.reads (n + 1) output c input = r :: e.reads n r.output r.consumed r.rest := by
  rw [← hr] at h ⊢
  rw [reads]
  exact congrArg _ (if_pos h)

/-- A read that a terminator ends can be followed by another one. -/
theorem goesOn_of_endsWith {b : UInt8} {r : Read} (h : EndsWith b r.ending) : r.goesOn = true := by
  unfold EndsWith at h
  unfold Read.goesOn
  split at h
  · rw [h]
  · obtain ⟨line, h⟩ := h
    rw [h]

/-- **Reading on** is reading every part alone. -/
theorem reads_eq_take (e : Editor) (n : Nat) (shown : Bytes) (c : Nat) {ss : List Bytes}
    {rest : Bytes} (hss : ∀ s ∈ ss, IsSegment s) (hrest : ∀ b ∈ rest, isTerminator b = false) :
    e.reads n (.unlimited shown) c (InputEvent.ofBytes (ss ++ [rest]).flatten) =
      (e.readsApart shown c (ss ++ [rest])).take n := by
  induction n generalizing shown c ss with
  | zero => rfl
  | succ n ih =>
    cases ss with
    | nil =>
      -- the input ends within this read, and no other follows
      obtain ⟨hending, -, hleft, -⟩ := alone_remainder e hrest
      have hread := readFrom_eq_after e shown c (InputEvent.ofBytes rest)
      have hclosed : (e.readFrom (.unlimited shown) c (InputEvent.ofBytes rest)).goesOn = false := by
        rw [hread]
        show (e.alone rest).goesOn = false
        unfold Read.goesOn
        rw [hending]
      rw [List.nil_append, List.flatten_singleton, reads_of_not_goesOn e n hclosed, hread,
        readsApart, List.take_succ_cons, readsApart, List.take_nil]
      refine congrArg (· :: []) ?_
      show (e.alone rest).after shown c = { (e.alone rest).after shown c with rest := [] }
      rw [← hleft]
      rfl
    | cons s ss =>
      have hs := hss s List.mem_cons_self
      obtain ⟨hconsumed, houtput, ⟨last, -, hends⟩, -⟩ := alone_segment e hs
      have hread := readFrom_segment_eq e shown c hs (InputEvent.ofBytes (ss ++ [rest]).flatten)
      rw [← ofBytes_append, ← List.flatten_cons] at hread
      rw [List.cons_append, reads_of_goesOn e n hread (goesOn_of_endsWith hends), readsApart,
        List.take_succ_cons]
      -- the next read starts where this one ended
      have hnext := ih (shown ++ (e.alone s).output.flushed) (c + s.length)
        fun x hx => hss x (List.mem_cons_of_mem s hx)
      refine congrArg _ (Eq.trans ?_ hnext)
      show e.reads n ((e.alone s).output.after shown) (c + (e.alone s).consumed) _ = _
      rw [hconsumed, houtput, Output.after_unlimited]
      rfl

/-- **Reads cut the key stream at its terminators.** Its parts are the segments, each up to and with
    its only terminator, and what follows the last terminator. The `k`-th read takes the `k`-th part:
    it is the read of that part alone, after what was shown and taken before. A segment is taken
    whole and the read ends as its terminator says; in the remainder the input is found at its end. -/
theorem reads_split (e : Editor) (shown : Bytes) (c : Nat) (bs : Bytes) :
    (segments bs ++ [remainder bs]).flatten = bs ∧
      (∀ s ∈ segments bs, IsSegment s ∧ (e.alone s).consumed = s.length ∧
        ∃ last, s.getLast? = some last ∧ EndsWith last (e.alone s).ending) ∧
      (∀ b ∈ remainder bs, isTerminator b = false) ∧
      (e.alone (remainder bs)).ending = .error .inputClosed ∧
      (e.alone (remainder bs)).consumed = (remainder bs).length ∧
      ∀ n k, k < n → (e.reads n (.unlimited shown) c (InputEvent.ofBytes bs))[k]? =
        (segments bs ++ [remainder bs])[k]?.map fun part =>
          ((e.alone part).after (shown ++ e.shownBy ((segments bs ++ [remainder bs]).take k))
            (c + ((segments bs ++ [remainder bs]).take k).flatten.length)).leaving
              (InputEvent.ofBytes ((segments bs ++ [remainder bs]).drop (k + 1)).flatten) := by
  have hflatten : (segments bs ++ [remainder bs]).flatten = bs := by
    rw [List.flatten_append, List.flatten_singleton, Bytes.flatten_segments]
  have hsegments : ∀ s ∈ segments bs, IsSegment s := fun s hs => Bytes.isSegment_of_mem hs
  have hremainder : ∀ b ∈ remainder bs, isTerminator b = false :=
    fun b hb => Bytes.not_isTerminator_of_mem hb
  obtain ⟨hending, hconsumed, -⟩ := alone_remainder e hremainder
  refine ⟨hflatten, ?_, hremainder, hending, hconsumed, ?_⟩
  · intro s hs
    obtain ⟨hconsumed, -, hends, -⟩ := alone_segment e (hsegments s hs)
    exact ⟨hsegments s hs, hconsumed, hends⟩
  · intro n k hk
    have hreads := reads_eq_take e n shown c hsegments hremainder
    rw [hflatten] at hreads
    rw [hreads, List.getElem?_take_of_lt hk, readsApart_getElem?]

end Editor

end CommandShell
