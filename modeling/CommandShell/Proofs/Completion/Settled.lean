import CommandShell.Proofs.Completion.Exact
import CommandShell.Proofs.Editor.Typing

/-!
# `CommandShell.Proofs.Completion.Settled` — one Tab settles the line

What completion adds leads to a goal that depends on the matching names alone, and up to that goal the
matching names stay the same. So whoever types a part of the offered text is offered the rest of it, and
at the goal nothing more is added: the second Tab in a row never changes the line.

## Contents
- **On the way.** `withPrefix_append`: no name is lost before the goal. `complete_append` and
  `complete_goal_of_only`, `complete_goal_of_several`.
- **Tabs.** `press_tab_buffer` for one Tab, `keys_tabs_buffer` for a row of them.
- **Summary.** `tab_settles_line`.
-/

namespace CommandShell

namespace Registry

variable {r : Registry} {p s : Text}

/-! ## On the way to the goal -/

/-- What lies before the goal of some names is a start of each of them. -/
theorem isPrefix_of_isPrefix_goal {k n : Text} {ns : List Text} (hk : k <+: goal ns)
    (hlt : k.length < (goal ns).length) (hn : n ∈ ns) : k <+: n := by
  have hgoal := goal_isPrefix hn
  have hlength := hgoal.length_le
  rw [List.length_append, List.length_singleton] at hlength
  exact List.prefix_of_prefix_length_le (hk.trans hgoal) (List.prefix_append n [' ']) (by omega)

/-- The names that match are the same if all of them start with the longer text too. -/
theorem withPrefix_append_of_forall {t : Text} (h : ∀ n ∈ r.withPrefix p, p ++ t <+: n) :
    r.withPrefix (p ++ t) = r.withPrefix p := by
  rw [withPrefix_eq_filter, withPrefix_eq_filter]
  refine List.filter_congr fun n hn => ?_
  rw [Bool.eq_iff_iff, List.isPrefixOf_iff_prefix, List.isPrefixOf_iff_prefix]
  constructor
  · exact (List.prefix_append p t).trans
  · exact fun hpn => h n (mem_withPrefix.mpr ⟨hn, hpn⟩)

/-- **No name is lost** before the goal. -/
theorem withPrefix_append {s₁ s₂ : Text} (h : r.complete p = .direct (s₁ ++ s₂)) (hs : s₂ ≠ []) :
    r.withPrefix (p ++ s₁) = r.withPrefix p := by
  obtain ⟨-, -, hgoal⟩ := complete_eq_direct_iff.mp h
  rw [← List.append_assoc] at hgoal
  refine withPrefix_append_of_forall fun n hn => ?_
  refine isPrefix_of_isPrefix_goal (hgoal ▸ List.prefix_append _ s₂) ?_ hn
  have hpos := List.length_pos_iff.mpr hs
  rw [← hgoal, @List.length_append _ (p ++ s₁) s₂]
  omega

/-- **Typing a part of the offer** leaves the rest of it on offer. -/
theorem complete_append {s₁ s₂ : Text} (h : r.complete p = .direct (s₁ ++ s₂)) (hs : s₂ ≠ []) :
    r.complete (p ++ s₁) = .direct s₂ := by
  obtain ⟨hp, -, hgoal⟩ := complete_eq_direct_iff.mp h
  refine complete_eq_direct_iff.mpr ⟨fun hnil => hp (List.append_eq_nil_iff.mp hnil).1, hs, ?_⟩
  rw [withPrefix_append h hs, List.append_assoc, hgoal]

/-- At the goal of one name nothing matches: the space behind it belongs to no name. -/
theorem complete_goal_of_only {n : Text} (h : r.complete p = .direct s)
    (honly : ∀ m, r.Matches p m ↔ m = n) : r.complete (p ++ s) = .noMatch := by
  obtain ⟨-, -, hgoal⟩ := complete_eq_direct_iff.mp h
  rw [withPrefix_eq_singleton honly] at hgoal
  replace hgoal : p ++ s = n ++ [' '] := hgoal
  refine complete_eq_noMatch_iff.mpr (.inr (withPrefix_eq_nil_iff.mpr ?_))
  rintro m ⟨hm, hpre⟩
  -- such a name would match before, too, and is not that long
  have hmn : m = n := (honly m).mp ⟨hm, (List.prefix_append p s).trans hpre⟩
  have hlength := hpre.length_le
  rw [hgoal, hmn, List.length_append, List.length_singleton] at hlength
  omega

/-- At the goal of several names, all of them are offered. -/
theorem complete_goal_of_several {n m : Text} (h : r.complete p = .direct s)
    (hn : r.Matches p n) (hm : r.Matches p m) (hne : n ≠ m) :
    r.complete (p ++ s) = .choice (r.withPrefix p) := by
  obtain ⟨hp, -, hgoal⟩ := complete_eq_direct_iff.mp h
  obtain ⟨first, second, rest, hlist⟩ := withPrefix_eq_cons_cons hn hm hne
  rw [hlist] at hgoal
  replace hgoal : p ++ s = (second :: rest).foldl Text.common first := hgoal
  have hsame : r.withPrefix (p ++ s) = first :: second :: rest := by
    rw [← hlist]
    refine withPrefix_append_of_forall fun x hx => ?_
    rw [hlist] at hx
    exact Text.isPrefix_foldl_common_iff.mp (hgoal ▸ List.prefix_rfl) x hx
  have hnil : p ++ s ≠ [] := fun hnil => hp (List.append_eq_nil_iff.mp hnil).1
  obtain ⟨-, -, hoffer⟩ := complete_of_several hnil hsame
  rw [hoffer hgoal.symm, hlist]

/-- Where something is offered, one name matches or several do. -/
theorem only_or_several (h : r.complete p = .direct s) :
    (∃ n, ∀ m, r.Matches p m ↔ m = n) ∨ ∃ n m, r.Matches p n ∧ r.Matches p m ∧ n ≠ m := by
  match hlist : r.withPrefix p with
  | [] =>
    rw [complete_eq_noMatch_iff.mpr (.inr hlist)] at h
    cases h
  | [n] => exact .inl ⟨n, matches_iff_of_singleton hlist⟩
  | n :: m :: ns =>
    have hsorted : (r.withPrefix p).Pairwise (· < ·) := pairwise_withPrefix
    rw [hlist, List.pairwise_cons] at hsorted
    have hlt : n < m := hsorted.1 m List.mem_cons_self
    refine .inr ⟨n, m, mem_withPrefix.mp ?_, mem_withPrefix.mp ?_, ?_⟩
    · rw [hlist]
      exact List.mem_cons_self
    · rw [hlist]
      exact List.mem_cons_of_mem n List.mem_cons_self
    · rintro rfl
      exact List.lt_irrefl n hlt

/-- What was typed and what was added to it is not added to. -/
theorem complete_goal_ne_direct (h : r.complete p = .direct s) (t : Text) :
    r.complete (p ++ s) ≠ .direct t := by
  rcases only_or_several h with ⟨n, honly⟩ | ⟨n, m, hn, hm, hne⟩
  · rw [complete_goal_of_only h honly]
    nofun
  · rw [complete_goal_of_several h hn hm hne]
    nofun

end Registry

/-! ## Tabs in a row -/

namespace Editor

/-- What completion makes of a line. -/
def completed (r : Registry) (line : Text) : Text :=
  match r.complete line with
  | .direct s => line ++ s
  | _ => line

/-- A Tab is never a part of an escape sequence: it ends one, and acts. -/
theorem press_tab (e : Editor) (s : State) :
    e.press s '\t' = e.pressTab { s with escape := .outside } := by
  have hskip : s.escape.skip? '\t' = none := Escape.skip?_control (by decide) s.escape
  unfold press
  rw [hskip]
  rfl

/-- **A Tab** completes the line, in whatever state the editor is. -/
theorem press_tab_buffer (e : Editor) (s : State) :
    (e.press s '\t').state.buffer = completed e.registry s.buffer := by
  rw [press_tab, pressTab, completed]
  dsimp only
  cases e.registry.complete s.buffer with
  | noMatch => rfl
  | direct suffix => rfl
  | choice names =>
    dsimp only
    split <;> rfl

/-- A line that has been completed is complete. -/
theorem completed_completed (r : Registry) (line : Text) :
    completed r (completed r line) = completed r line := by
  cases h : r.complete line with
  | noMatch => simp only [completed, h]
  | choice names => simp only [completed, h]
  | direct s =>
    have hline : completed r line = line ++ s := by simp only [completed, h]
    rw [hline, completed]
    split
    · next t ht => exact absurd ht (Registry.complete_goal_ne_direct h t)
    · rfl

/-- The state after some Tabs in a row. -/
def afterTabs (e : Editor) (s : State) (n : Nat) : State :=
  (({ state := s } : Typing).keys e (List.replicate n (.char '\t'))).state

theorem keys_tabs_buffer (e : Editor) (t : Typing) (n : Nat) :
    (t.keys e (List.replicate (n + 1) (.char '\t'))).state.buffer =
      completed e.registry t.state.buffer := by
  induction n generalizing t with
  | zero => exact press_tab_buffer e t.state
  | succ n ih =>
    have hfirst : (t.key e (.char '\t')).state.buffer = completed e.registry t.state.buffer :=
      press_tab_buffer e t.state
    rw [List.replicate_succ, Typing.keys_cons, ih, hfirst, completed_completed]

/-! ## Summary -/

/-- **One Tab settles the line.** Whoever types a part of what completion offers is offered the rest, and
    with all of it on the line there is no further offer: nothing matches if there was one match, and if
    there were several, these are the choice. In a row of Tabs only the first one changes the line. -/
theorem tab_settles_line (e : Editor) :
    (∀ p s : Text, e.registry.complete p = .direct s →
      (∀ s₁ s₂, s = s₁ ++ s₂ → s₂ ≠ [] → e.registry.complete (p ++ s₁) = .direct s₂) ∧
      (∀ t, e.registry.complete (p ++ s) ≠ .direct t) ∧
      (∀ n, (∀ m, e.registry.Matches p m ↔ m = n) → e.registry.complete (p ++ s) = .noMatch) ∧
      (∀ n m, e.registry.Matches p n → e.registry.Matches p m → n ≠ m →
        ∃ ns, e.registry.complete (p ++ s) = .choice ns ∧ (∀ x, x ∈ ns ↔ e.registry.Matches p x) ∧
          ns.Pairwise (· < ·))) ∧
    ∀ (s : State) (n : Nat), (e.afterTabs s (n + 1)).buffer = (e.afterTabs s 1).buffer := by
  refine ⟨?_, ?_⟩
  · intro p s h
    refine ⟨?_, Registry.complete_goal_ne_direct h,
      fun n => Registry.complete_goal_of_only h, ?_⟩
    · rintro s₁ s₂ rfl hs
      exact Registry.complete_append h hs
    · intro n m hn hm hne
      exact ⟨_, Registry.complete_goal_of_several h hn hm hne, fun x => Registry.mem_withPrefix,
        Registry.pairwise_withPrefix⟩
  · intro s n
    exact (keys_tabs_buffer e { state := s } n).trans (keys_tabs_buffer e { state := s } 0).symm

/-- Two names that share a start: a part of the offer may be typed, at its end both are the choice, and two
    more Tabs change nothing. -/
theorem tab_settles_line_cat :
    let e : Editor := ⟨.ofNames ["cat".toList, "cat x".toList], "$ ".toList⟩
    let s : State := { buffer := ['c'] }
    e.registry.complete ['c'] = .direct ['a', 't'] ∧ e.registry.complete ['c', 'a'] = .direct ['t'] ∧
      (∃ ns, e.registry.complete ['c', 'a', 't'] = .choice ns ∧
        ∀ x, x ∈ ns ↔ e.registry.Matches ['c'] x) ∧
      (e.afterTabs s 3).buffer = ['c', 'a', 't'] := by
  intro e s
  have hoffer : e.registry.complete ['c'] = .direct ['a', 't'] := by decide
  have hfirst : (e.afterTabs s 1).buffer = ['c', 'a', 't'] := by decide
  have hcat : e.registry.Matches ['c'] "cat".toList := ⟨by decide, by decide⟩
  have hcatx : e.registry.Matches ['c'] "cat x".toList := ⟨by decide, by decide⟩
  obtain ⟨hoffers, htabs⟩ := tab_settles_line e
  obtain ⟨hpart, -, -, hseveral⟩ := hoffers ['c'] ['a', 't'] hoffer
  obtain ⟨ns, hchoice, hmatches, -⟩ := hseveral _ _ hcat hcatx (by decide)
  exact ⟨hoffer, hpart ['a'] ['t'] rfl (by decide), ⟨ns, hchoice, hmatches⟩, (htabs s 2).trans hfirst⟩

end Editor

end CommandShell
