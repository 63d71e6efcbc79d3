import CommandShell.Proofs.Editor.Screen
import CommandShell.Proofs.Editor.Typing

/-!
# `CommandShell.Proofs.Editor.Strokes` — the keys that an input brings

Which keys an input brings, and after how many bytes each of them, is a matter of the input alone. A read
handles them one after the other: at every moment of it, the keys that it has handled and those that are
still to come are together all of them.

## Contents
- **Strokes.** `Stroke` is a key with the number of bytes taken by then; `strokes` are those of an input.
- **Still to come.** `Moment.upcoming`. Only a key that is handled changes it: `upcoming_key` and
  `upcoming_retry`.
- **Handled.** `stateAfter` some keys; `exists_handled`: at every moment the state is that after the keys
  handled so far.
-/

namespace CommandShell

namespace Editor

/-! ## Strokes -/

/-- A key, and how many bytes had been taken when it was decoded. -/
structure Stroke where
  consumed : Nat
  key : Key
  deriving DecidableEq, Repr

/-- The strokes that some input brings to a decoder, with so many bytes taken before. A fault ends them, but
    for an interrupted attempt. -/
def strokes (d : Decoder) (consumed : Nat) : List InputEvent → List Stroke
  | [] => []
  | .fault f :: input => if f.isInterruption then strokes d consumed input else []
  | .byte b :: input =>
    (d.push b).1.map (Stroke.mk (consumed + 1)) ++ strokes (d.push b).2 (consumed + 1) input

/-- A byte may deliver two keys: what it breaks off, and itself. -/
example : strokes .idle 0 (InputEvent.ofBytes [0x61, 0xE2, 0x09]) =
    [⟨1, .char 'a'⟩, ⟨3, .invalid [0xE2]⟩, ⟨3, .char '\t'⟩] := by decide

/-! ## Still to come -/

variable {e : Editor} {m m' : Moment}

/-- The strokes that are still to be handled. -/
def Moment.upcoming (m : Moment) : List Stroke :=
  m.keys.map (Stroke.mk m.progress.consumed) ++
    strokes m.progress.decoder m.progress.consumed m.input

theorem show_kept (p : Progress) (echo : Bytes) :
    (p.show echo).1.decoder = p.decoder ∧ (p.show echo).1.consumed = p.consumed := by
  unfold Progress.show
  split
  · exact ⟨rfl, rfl⟩
  · split <;> exact ⟨rfl, rfl⟩

/-- Handling a key takes no byte. -/
theorem press_kept (e : Editor) (p : Progress) (key : Key) :
    (p.press e key).1.decoder = p.decoder ∧ (p.press e key).1.consumed = p.consumed := by
  have hshow := show_kept
    { p with
      state := (e.press p.state key.typed).state, notices := p.notices ++ notice p.state key }
    (Utf8.encode (e.press p.state key.typed).echo)
  unfold Progress.press
  dsimp only
  split
  · next heq =>
    rw [heq] at hshow
    exact hshow
  · next heq =>
    rw [heq] at hshow
    exact hshow

/-- The state after some keys. -/
def stateAfter (e : Editor) (ks : List Key) : State := (({} : Typing).keys e ks).state

@[simp] theorem stateAfter_nil (e : Editor) : e.stateAfter [] = {} := rfl

@[simp] theorem stateAfter_concat (e : Editor) (ks : List Key) (k : Key) :
    e.stateAfter (ks ++ [k]) = (e.press (e.stateAfter ks) k.typed).state := by
  rw [stateAfter, Typing.keys_append]
  rfl

namespace Moment

/-- The key that is handled is the first of those to come. -/
theorem upcoming_key {p q : Progress} {key : Key} {keys : List Key} {input : List InputEvent}
    {ending : Option (Except Failure ReadOutcome)} (h : p.press e key = (q, ending)) :
    upcoming ⟨p, key :: keys, input⟩ = ⟨p.consumed, key⟩ :: upcoming ⟨q, keys, input⟩ := by
  obtain ⟨hdecoder, hconsumed⟩ := press_kept e p key
  rw [h] at hdecoder hconsumed
  unfold upcoming
  dsimp only at hdecoder hconsumed ⊢
  rw [hdecoder, hconsumed]
  rfl

/-- An interrupted attempt brings nothing. -/
theorem upcoming_retry {p : Progress} {f : Fault} {input : List InputEvent}
    (h : f.isInterruption = true) :
    upcoming ⟨p, [], .fault f :: input⟩ = upcoming ⟨p, [], input⟩ := by
  unfold upcoming
  rw [strokes, if_pos h]

/-! ## Handled -/

/-- **At every moment of a read**, what has been handled and what is still to come are all strokes of the
    input, and the state is that after the handled keys. -/
theorem exists_handled {output : Output} {consumed : Nat} {input : List InputEvent}
    (h : Reaches e (start output consumed input) m) :
    ∃ handled, strokes .idle consumed input = handled ++ m.upcoming ∧
      m.progress.state = e.stateAfter (handled.map Stroke.key) := by
  induction h with
  | refl => exact ⟨[], rfl, rfl⟩
  | tail _ hstep ih =>
    obtain ⟨handled, hall, hstate⟩ := ih
    cases hstep with
    | @key p q key keys input hpress =>
      obtain ⟨-, hnext, -⟩ := text_of_press hpress
      refine ⟨handled ++ [Stroke.mk p.consumed key], ?_, ?_⟩
      · rw [hall, upcoming_key hpress, List.append_assoc]
        rfl
      · show q.state = e.stateAfter ((handled ++ [Stroke.mk p.consumed key]).map Stroke.key)
        rw [hnext, hstate]
        simp
    | byte => exact ⟨handled, hall, hstate⟩
    | retry h =>
      refine ⟨handled, ?_, hstate⟩
      rw [hall, upcoming_retry h]

end Moment

end Editor

end CommandShell
