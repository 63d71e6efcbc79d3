import CommandShell.Proofs.Completion.Settled
import CommandShell.Proofs.Editor.Strokes
import Mathlib.Data.List.DropRight

/-!
# `CommandShell.Proofs.Editor.Tabs` — every second choice is listed

The editor keeps no more of the keys that were pressed than whether the last one was a Tab that found a
choice and rang the bell. That is enough to list the choice at every second of the Tabs that find one in a
row; any other key ends the row, even one that is dropped, and so does a Tab that finds no choice.

## Contents
- **History.** `presses` are the keys with the states in which they were pressed; `choicesInRow` counts the
  Tabs at their end that found a choice.
- **One key.** `press_tab_choice`, and `press_tabs` for what any key makes of the count of Tabs.
- **All keys.** `stateAfter_tabs`: the count is the number of the choices in a row, modulo 2. `tab_echo`, what
  the next Tab shows.
- **Summary.** `lists_every_second_choice`.
-/

namespace CommandShell

namespace Editor

variable {e : Editor} {s : State} {c : Char} {names : List Text}

/-! ## History -/

/-- Whether a key is a Tab that finds a choice. -/
def findsChoice (e : Editor) (s : State) (k : Key) : Bool :=
  k.typed == '\t' && match e.registry.complete s.buffer with
    | .choice _ => true
    | _ => false

theorem findsChoice_iff {k : Key} :
    e.findsChoice s k = true ↔
      k.typed = '\t' ∧ ∃ names, e.registry.complete s.buffer = .choice names := by
  unfold findsChoice
  rw [Bool.and_eq_true, beq_iff_eq]
  apply and_congr_right
  intro _
  cases e.registry.complete s.buffer <;> simp

/-- The keys, each with the state in which it is pressed. -/
def presses (e : Editor) : State → List Key → List (State × Key)
  | _, [] => []
  | s, k :: ks => (s, k) :: presses e (e.press s k.typed).state ks

/-- How many Tabs that found a choice stand in a row at the end of some keys. -/
def choicesInRow (e : Editor) (ks : List Key) : Nat :=
  ((e.presses {} ks).rtakeWhile fun pressed => e.findsChoice pressed.1 pressed.2).length

/-- The last key is pressed in the state after those before it. -/
theorem presses_concat (e : Editor) (t : Typing) (ks : List Key) (k : Key) :
    e.presses t.state (ks ++ [k]) = e.presses t.state ks ++ [((t.keys e ks).state, k)] := by
  induction ks generalizing t with
  | nil => rfl
  | cons first ks ih =>
    rw [List.cons_append, presses, presses, List.cons_append, Typing.keys_cons]
    exact congrArg _ (ih (t.key e first))

/-- One more key is in the row, or ends it. -/
theorem choicesInRow_concat (e : Editor) (ks : List Key) (k : Key) :
    e.choicesInRow (ks ++ [k]) =
      if e.findsChoice (e.stateAfter ks) k then e.choicesInRow ks + 1 else 0 := by
  have hpresses : e.presses {} (ks ++ [k]) = e.presses {} ks ++ [(e.stateAfter ks, k)] :=
    presses_concat e {} ks k
  unfold choicesInRow
  rw [hpresses, List.rtakeWhile_concat]
  split <;> simp

/-! ## One key -/

/-- **A Tab that finds a choice** rings the bell or lists the choice, and leaves the line as it is. -/
theorem press_tab_choice (h : e.registry.complete s.buffer = .choice names) :
    e.press s '\t' =
      if s.tabs = 0 then
        { state := { s with tabs := 1, escape := .outside }, echo := [Text.bell] }
      else { state := { s with tabs := 0, escape := .outside }, echo := e.listing names s.buffer } := by
  rw [press_tab, pressTab, h]
  dsimp only
  by_cases htabs : s.tabs = 0
  · rw [if_pos htabs, htabs, if_pos rfl]
  · have hmore : s.tabs + 1 ≠ 1 := by omega
    rw [if_neg htabs, if_neg hmore]

/-- A Tab that finds no choice ends the row. -/
theorem press_tab_tabs (h : ∀ names, e.registry.complete s.buffer ≠ .choice names) :
    (e.press s '\t').state.tabs = 0 := by
  rw [press_tab, pressTab]
  dsimp only
  split
  · rfl
  · rfl
  · next names hchoice => exact absurd hchoice (h names)

/-- Outside escape sequences only Tab counts Tabs. -/
theorem act_tabs (hc : c ≠ '\t') : (e.act s c).state.tabs = s.tabs := by
  unfold act pressErase
  repeat' split
  all_goals rfl

/-- Any other key ends the row. -/
theorem press_other_tabs (hc : c ≠ '\t') : (e.press s c).state.tabs = 0 := by
  have hbefore : (beforeKey s c).tabs = 0 := by rw [beforeKey, if_neg hc]
  unfold press
  split
  · exact hbefore
  · rw [act_tabs hc]
    exact hbefore

/-- **Any key**: the count is that of the row, modulo 2. -/
theorem press_tabs (e : Editor) (s : State) (k : Key) :
    (e.press s k.typed).state.tabs =
      if e.findsChoice s k then (if s.tabs = 0 then 1 else 0) else 0 := by
  by_cases htab : k.typed = '\t'
  · by_cases hchoice : ∃ names, e.registry.complete s.buffer = .choice names
    · rw [if_pos (findsChoice_iff.mpr ⟨htab, hchoice⟩), htab]
      obtain ⟨names, hchoice⟩ := hchoice
      rw [press_tab_choice hchoice]
      split <;> rfl
    · have hnot : ¬ e.findsChoice s k = true := fun h => hchoice (findsChoice_iff.mp h).2
      rw [if_neg hnot, htab]
      exact press_tab_tabs fun names h => hchoice ⟨names, h⟩
  · have hnot : ¬ e.findsChoice s k = true := fun h => htab (findsChoice_iff.mp h).1
    rw [if_neg hnot]
    exact press_other_tabs htab

/-- A list of names is more than a bell. -/
theorem listing_ne_bell (e : Editor) (names : List Text) (buffer : Text) :
    e.listing names buffer ≠ [Text.bell] := by
  intro h
  have hhead : '\r' = Text.bell := (List.cons.inj h).1
  exact absurd hhead (by decide)

/-- The count is 1 behind a Tab that found a choice and rang the bell, and behind no other key. -/
theorem press_tabs_eq_one_iff {k : Key} :
    (e.press s k.typed).state.tabs = 1 ↔
      e.findsChoice s k = true ∧ (e.press s k.typed).echo = [Text.bell] := by
  rw [press_tabs]
  by_cases hfinds : e.findsChoice s k = true
  · obtain ⟨htab, names, hchoice⟩ := findsChoice_iff.mp hfinds
    rw [if_pos hfinds, htab, press_tab_choice hchoice]
    by_cases htabs : s.tabs = 0
    · simp [htabs, hfinds]
    · simp [htabs, listing_ne_bell]
  · simp [hfinds]

/-! ## All keys -/

/-- **The count** is the number of the choices in a row, modulo 2. -/
theorem stateAfter_tabs (e : Editor) (ks : List Key) :
    (e.stateAfter ks).tabs = e.choicesInRow ks % 2 := by
  induction ks using List.reverseRecOn with
  | nil => rfl
  | append_singleton ks k ih =>
    rw [stateAfter_concat, press_tabs, choicesInRow_concat, ih]
    split
    · split <;> omega
    · rfl

/-- The count is 1 just if the last key was a Tab that found a choice and rang the bell. -/
theorem stateAfter_tabs_eq_one_iff {ks : List Key} :
    (e.stateAfter ks).tabs = 1 ↔ ∃ earlier k, ks = earlier ++ [k] ∧ k.typed = '\t' ∧
      (∃ names, e.registry.complete (e.stateAfter earlier).buffer = .choice names) ∧
      (e.press (e.stateAfter earlier) k.typed).echo = [Text.bell] := by
  rcases List.eq_nil_or_concat ks with rfl | ⟨earlier, k, rfl⟩
  · simp
  · rw [List.concat_eq_append, stateAfter_concat, press_tabs_eq_one_iff, findsChoice_iff]
    simp [and_assoc]

/-- What the next Tab shows if it finds a choice. -/
theorem tab_echo {ks : List Key}
    (h : e.registry.complete (e.stateAfter ks).buffer = .choice names) :
    (e.press (e.stateAfter ks) '\t').echo =
      if e.choicesInRow ks % 2 = 0 then [Text.bell]
      else e.listing names (e.stateAfter ks).buffer := by
  rw [press_tab_choice h, stateAfter_tabs]
  split <;> rfl

/-! ## Summary -/

/-- **Every second choice is listed.** After any keys the count of Tabs is 0 or 1, and never near the end of
    its 32 bits; it is 1 just if the last key was a Tab that found a choice and rang the bell. A Tab that
    finds a choice now finds all known names that start with the line, in order. It rings the bell and shows
    nothing else if an even number of such Tabs stands in a row before it; else it shows the names below the
    line, with prompt and line again. A Tab that has nothing to add never changes the line.

    At every moment of a read on any output, the state is that after the keys handled so far; and what a Tab
    shows then is what is written, if the output accepts it. -/
theorem lists_every_second_choice (e : Editor) :
    (∀ ks : List Key,
      let s := e.stateAfter ks
      (s.tabs = 0 ∨ s.tabs = 1) ∧ s.tabs + 1 < UInt32.size ∧
        (s.tabs = 1 ↔ ∃ earlier k, ks = earlier ++ [k] ∧ k.typed = '\t' ∧
          (∃ names, e.registry.complete (e.stateAfter earlier).buffer = .choice names) ∧
          (e.press (e.stateAfter earlier) k.typed).echo = [Text.bell]) ∧
        (∀ names, e.registry.complete s.buffer = .choice names →
          (∀ n, n ∈ names ↔ n ∈ e.registry.names ∧ s.buffer <+: n) ∧ names.Pairwise (· < ·) ∧
            (e.press s '\t').echo =
              if e.choicesInRow ks % 2 = 0 then [Text.bell]
              else "\r\n".toList ++ List.intercalate "  ".toList names ++ "\r\n".toList ++ e.prompt ++
                s.buffer) ∧
        ((∀ suffix, e.registry.complete s.buffer ≠ .direct suffix) →
          (e.press s '\t').state.buffer = s.buffer)) ∧
    ∀ (output : Output) (consumed : Nat) (input : List InputEvent) (m : Moment),
      Moment.Reaches e (.start output consumed input) m →
        ∃ handled, strokes .idle consumed input = handled ++ m.upcoming ∧
          m.progress.state = e.stateAfter (handled.map Stroke.key) ∧
          ∀ key q, m.progress.press e key = (q, none) →
            q.output.text = m.progress.output.text ++
              Utf8.encode (e.press (e.stateAfter (handled.map Stroke.key)) key.typed).echo := by
  refine ⟨?_, ?_⟩
  · intro ks s
    have htabs : s.tabs = e.choicesInRow ks % 2 := stateAfter_tabs e ks
    have hsize : UInt32.size = 4294967296 := rfl
    refine ⟨by omega, by omega, stateAfter_tabs_eq_one_iff, ?_, ?_⟩
    · intro names hchoice
      have hecho := tab_echo hchoice
      obtain rfl := Registry.withPrefix_of_complete_choice hchoice
      exact ⟨fun n => Registry.mem_withPrefix, Registry.pairwise_withPrefix, hecho⟩
    · intro hdirect
      rw [press_tab_buffer, completed]
      split
      · next suffix h => exact absurd h (hdirect suffix)
      · rfl
  · intro output consumed input m h
    obtain ⟨handled, hall, hstate⟩ := Moment.exists_handled h
    refine ⟨handled, hall, hstate, ?_⟩
    intro key q hpress
    rw [← hstate]
    exact (text_of_press hpress).2.2

/-- The second Tab that finds the choice of two names lists them. -/
theorem lists_every_second_choice_echo :
    let e : Editor := ⟨.ofNames ["exit".toList, "echo".toList], "$ ".toList⟩
    let s := e.stateAfter ("e\t".toList.map .char)
    e.registry.complete s.buffer = .choice ["echo".toList, "exit".toList] ∧ s.tabs = 1 ∧
      (e.press s '\t').echo = "\r\necho  exit\r\n$ e".toList ∧
      (e.press s '\t').state.buffer = s.buffer := by
  intro e s
  have hchoice : e.registry.complete s.buffer = .choice ["echo".toList, "exit".toList] := by decide
  have hrow : e.choicesInRow ("e\t".toList.map .char) = 1 := by decide
  obtain ⟨hkeys, -⟩ := lists_every_second_choice e
  obtain ⟨-, -, -, hchoices, hline⟩ := hkeys ("e\t".toList.map .char)
  obtain ⟨-, -, hecho⟩ := hchoices _ hchoice
  rw [hrow] at hecho
  refine ⟨hchoice, by decide, hecho, hline ?_⟩
  intro suffix hdirect
  cases hchoice.symm.trans hdirect

/-- A key that is dropped stands between the third Tab and the fourth one, and the fifth Tab lists. -/
example :
    let e : Editor := ⟨.ofNames ["exit".toList, "echo".toList], "$ ".toList⟩
    (({} : Typing).keys e ("e\t\t\t\x1b[C\t\t".toList.map .char)).shown =
      "e\x07\r\necho  exit\r\n$ e\x07\x07\r\necho  exit\r\n$ e".toList := by decide

end Editor

end CommandShell
