import CommandShell.Editor.State

/-!
# `CommandShell.Proofs.Editor.State` — which keys end a read

Three characters end a read, in whatever state the editor is: they are control characters, and no
escape sequence takes one of those.

## Contents
- **Escape sequences.** `Escape.skip?_control`.
- **Ends.** `endsRead`, and `endingOf` for how a read ends; `press_ending` says that it does, for
  every key.
-/

namespace CommandShell

/-! ## Escape sequences -/

/-- A control character is never part of an escape sequence. -/
theorem Escape.skip?_control {c : Char} (hc : Text.isControl c = true) (esc : Escape) :
    esc.skip? c = none := by
  cases esc with
  | outside => rfl
  | start =>
    have hbracket : c ≠ '[' := fun h => absurd (h ▸ hc) (by decide)
    have hO : c ≠ 'O' := fun h => absurd (h ▸ hc) (by decide)
    rw [skip?, if_neg hbracket, if_neg hO]
  | csi => rw [skip?, if_pos hc]
  | ss3 => rw [skip?, if_pos hc]

/-! ## Ends -/

namespace Editor

/-- The characters that end a read. -/
def endsRead (c : Char) : Prop := c = Text.interruptKey ∨ c = '\r' ∨ c = '\n'

instance : DecidablePred endsRead := fun _ => inferInstanceAs (Decidable (_ ∨ _ ∨ _))

theorem endsRead.control {c : Char} (h : endsRead c) : Text.isControl c = true := by
  rcases h with rfl | rfl | rfl <;> decide

/-- How a read ends with a key, if it does. -/
def endingOf (s : State) (c : Char) : Option ReadOutcome :=
  if c = Text.interruptKey then some .interrupted
  else if c = '\r' ∨ c = '\n' then some (.line s.buffer)
  else none

theorem endingOf_of_not_endsRead {s : State} {c : Char} (h : ¬ endsRead c) :
    endingOf s c = none := by
  rw [endingOf, if_neg fun hc => h (.inl hc), if_neg fun hc => h (.inr hc)]

theorem endsRead.exists_ending {c : Char} (h : endsRead c) (s : State) :
    ∃ x, endingOf s c = some x := by
  unfold endingOf
  by_cases hinterrupt : c = Text.interruptKey
  · exact ⟨_, if_pos hinterrupt⟩
  · rw [if_neg hinterrupt, if_pos (h.resolve_left hinterrupt)]
    exact ⟨_, rfl⟩

theorem pressErase_ending (s : State) : (pressErase s).ending = none := by
  unfold pressErase
  split <;> rfl

theorem pressTab_ending (e : Editor) (s : State) : (e.pressTab s).ending = none := by
  unfold pressTab
  dsimp only
  split
  · rfl
  · rfl
  · split <;> rfl

@[simp] theorem beforeKey_buffer (s : State) (c : Char) : (beforeKey s c).buffer = s.buffer := by
  unfold beforeKey
  split <;> rfl

theorem act_ending (e : Editor) (s : State) (c : Char) : (e.act s c).ending = endingOf s c := by
  unfold act endingOf
  by_cases hinterrupt : c = Text.interruptKey
  · rw [if_pos hinterrupt, if_pos hinterrupt]
  rw [if_neg hinterrupt, if_neg hinterrupt]
  by_cases henter : c = '\r' ∨ c = '\n'
  · rw [if_pos henter, if_pos henter]
  rw [if_neg henter, if_neg henter]
  -- whatever the other keys do, none of them ends the read
  split
  · exact pressErase_ending s
  split
  · exact pressTab_ending e s
  split
  · rfl
  split
  · rfl
  · rfl

/-- **The end of a read** depends on the key alone. An escape sequence never takes such a key. -/
theorem press_ending (e : Editor) (s : State) (c : Char) :
    (e.press s c).ending = endingOf s c := by
  unfold press
  split
  · next next hskip =>
    have hnot : ¬ endsRead c := by
      intro h
      rw [Escape.skip?_control h.control] at hskip
      cases hskip
    rw [endingOf_of_not_endsRead hnot]
  · rw [act_ending]
    unfold endingOf
    dsimp only
    rw [beforeKey_buffer]

end Editor

end CommandShell
