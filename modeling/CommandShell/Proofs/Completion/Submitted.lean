import CommandShell.Proofs.Completion.Settled
import CommandShell.Proofs.Line.Verbatim

/-!
# `CommandShell.Proofs.Completion.Submitted` — a completed line as a command

Completion puts a name on the line as it is, and the line is then split and unquoted like any other. What
Tab and Enter make of a typed start of a name is therefore the name itself only if nothing in the name
quotes or separates.

## Contents
- **Keys.** `enter_after_tab`, and `alone_tab_enter` for the bytes that these keys send.
- **Summary.** `completed_line_runs`, for every known name; `completed_line_quotes_nothing`, a name that
  is split.
-/

namespace CommandShell

namespace Editor

variable {r : Registry} {p s : Text}

theorem completed_of_direct (h : r.complete p = .direct s) : completed r p = p ++ s := by
  simp only [completed, h]

/-- **Enter behind a Tab** gives the completed line, in whatever state the editor is. -/
theorem enter_after_tab (e : Editor) (state : State) :
    (e.press (e.press state '\t').state '\r').ending =
      some (.line (completed e.registry state.buffer)) := by
  rw [press_ending, ← press_tab_buffer]
  rfl

/-- The Tab key is one byte, which does not end a read. -/
theorem not_isTerminator_of_encode_tab (hp : p.IsPlain) :
    ∀ b ∈ Utf8.encode (p ++ ['\t']), Bytes.isTerminator b = false := by
  intro b hb
  rw [Utf8.encode_append] at hb
  rcases List.mem_append.mp hb with hb | hb
  · exact not_isTerminator_of_encode hp b hb
  · have htab : Utf8.encode ['\t'] = [0x09] := by decide
    rw [htab, List.mem_singleton] at hb
    rw [hb]
    rfl

/-- **A start of a name, Tab and Enter**, as they come from the keyboard. -/
theorem alone_tab_enter (e : Editor) (hp : p.IsPlain) :
    (e.alone (typedLine (p ++ ['\t']))).ending = .ok (.line (completed e.registry p)) := by
  have hreturn : Bytes.isTerminator Bytes.carriageReturn = true := rfl
  obtain ⟨⟨x, hx, hending⟩, -, -⟩ :=
    alone_typing e (not_isTerminator_of_encode_tab hp) hreturn
  have hkeys : (({} : Typing).keys e (keysBefore (Utf8.encode (p ++ ['\t'])))).state =
      (e.press { buffer := p } '\t').state := by
    rw [keysBefore_encode, List.map_append, Typing.keys_append, typing_line e hp]
    rfl
  have henter := press_ending e (e.press { buffer := p } '\t').state '\r'
  rw [enter_after_tab] at henter
  rw [hkeys] at hx
  rw [typedLine, hending]
  exact congrArg Except.ok (Option.some.inj (hx.symm.trans henter.symm))

/-! ## Summary -/

/-- **A completed line** is the only matching name and a space. It is read as a command of that name just
    if the name has no blanks at its ends and is verbatim, and that command then has no arguments and no
    redirections. -/
theorem completed_line_runs (e : Editor) {n : Text} (hp : p ≠ [])
    (honly : ∀ m, e.registry.Matches p m ↔ m = n) :
    ∃ s, e.registry.complete p = .direct s ∧ p ++ s = n ++ [' '] ∧
      (∀ state : State, state.buffer = p →
        (e.press (e.press state '\t').state '\r').ending = some (.line (p ++ s))) ∧
      (p.IsPlain → (e.alone (typedLine (p ++ ['\t']))).ending = .ok (.line (p ++ s))) ∧
      ((Command.ofLine (p ++ s)).name = n ↔ Text.trim n = n ∧ Verbatim n) ∧
      (Text.trim n = n → Verbatim n → Command.ofLine (p ++ s) = { name := n }) := by
  obtain ⟨s, hs, hline⟩ := Registry.complete_of_only hp (Registry.withPrefix_eq_singleton honly)
  have hcompleted := completed_of_direct hs
  have hn : n ≠ [] := by
    rintro rfl
    exact hp (List.prefix_nil.mp ((honly []).mpr rfl).2)
  refine ⟨s, hs, hline, ?_, ?_, ?_, ?_⟩
  · rintro state rfl
    rw [enter_after_tab, hcompleted]
  · intro hplain
    rw [alone_tab_enter e hplain, hcompleted]
  · rw [hline]
    exact Command.ofLine_name_iff hn
  · rw [hline]
    exact Command.ofLine_verbatim hn

/-- Of two names one starts with what was typed. -/
theorem completed_line_runs_echo :
    let e : Editor := ⟨Registry.ofNames ["exit".toList, "echo".toList], "$ ".toList⟩
    (['e', 'c'] : Text) ≠ [] ∧ (∀ m, e.registry.Matches ['e', 'c'] m ↔ m = "echo".toList) ∧
      ∃ s, e.registry.complete ['e', 'c'] = .direct s ∧
        (e.alone (typedLine ['e', 'c', '\t'])).ending = .ok (.line (['e', 'c'] ++ s)) ∧
        Command.ofLine (['e', 'c'] ++ s) = { name := "echo".toList } := by
  intro e
  have honly : ∀ m, e.registry.Matches ['e', 'c'] m ↔ m = "echo".toList :=
    Registry.matches_iff_of_singleton (by decide)
  have hne : (['e', 'c'] : Text) ≠ [] := by decide
  obtain ⟨s, hs, -, -, hread, -, hcommand⟩ := completed_line_runs e hne honly
  exact ⟨hne, honly, s, hs, hread (by decide), hcommand (by decide) (by decide)⟩

/-- **Nothing is quoted** on the way: a name with a space in it is completed, and read as another command
    with an argument. -/
theorem completed_line_quotes_nothing :
    let e : Editor := ⟨Registry.ofNames ["my tool".toList], "$ ".toList⟩
    (∀ m, e.registry.Matches ['m', 'y'] m ↔ m = "my tool".toList) ∧
      ∃ s, e.registry.complete ['m', 'y'] = .direct s ∧
        (e.alone (typedLine ['m', 'y', '\t'])).ending = .ok (.line (['m', 'y'] ++ s)) ∧
        Command.ofLine (['m', 'y'] ++ s) = { name := "my".toList, args := ["tool".toList] } := by
  intro e
  have honly : ∀ m, e.registry.Matches ['m', 'y'] m ↔ m = "my tool".toList :=
    Registry.matches_iff_of_singleton (by decide)
  have hdirect : e.registry.complete ['m', 'y'] = .direct " tool ".toList := by decide
  have hread := alone_tab_enter e (by decide : Text.IsPlain ['m', 'y'])
  rw [completed_of_direct hdirect] at hread
  exact ⟨honly, _, hdirect, hread, by decide⟩

end Editor

end CommandShell
