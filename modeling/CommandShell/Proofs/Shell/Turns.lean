import CommandShell.Proofs.Shell.Session

/-!
# `CommandShell.Proofs.Shell.Turns` — how many turns the loop takes

A turn that comes to read takes a byte of the key stream or ends the shell, whatever the standard output
does to the echoes. A turn whose prompt is refused does not come to read, and takes nothing. So the turns
with a prompt can be counted, even if an output refuses something and accepts again later; but an output
that goes on to refuse the prompt keeps the loop going for ever.

## Contents
- **Refusals.** `Output.Refuses`, said of an output and a text that is to be shown on it;
  `print_of_refuses` and `print_of_shows`.
- **Reads.** `readFrom_takes`: a read takes a byte, or fails so that the shell cannot go on.
- **Turns.** `step_of_refuses` and `run_of_refuses` without a prompt, `step_of_shows` with one.
- **Many turns.** `Goes`, turns between which the world may change, and `Goes.takes` for the bytes they take;
  `run_ends_or_refuses` for turns between which it does not.
- **Summary.** `turns_take_keys` for all sessions; `refused_prompt_takes_nothing` for one that never ends.
-/

namespace CommandShell

/-! ## Refusals -/

namespace Output

variable {o : Output} {bs : Bytes}

/-- An output that does not show the whole of a text: there is no room for it, or no flush any more. -/
def Refuses (o : Output) (bs : Bytes) : Prop :=
  (∃ room, o.writeRoom = some room ∧ room < bs.length) ∨ o.flushRoom = some 0

/-- A text is written and flushed. -/
def print (o : Output) (bs : Bytes) : Output × Option Fault :=
  match o.write bs with
  | (written, some fault) => (written, some fault)
  | (written, none) => written.flush

theorem write_flushRoom (o : Output) (bs : Bytes) : (o.write bs).1.flushRoom = o.flushRoom := by
  unfold write
  split
  · rfl
  · split <;> rfl

/-- **What is refused** is refused again, the next time that it is printed. -/
theorem print_of_refuses (h : o.Refuses bs) :
    ∃ o' fault, o.print bs = (o', some fault) ∧ o'.Refuses bs := by
  have hflushes := o.write_flushRoom bs
  cases hwrite : o.write bs with
  | mk written ended =>
    rw [hwrite] at hflushes
    have hfull {room : Nat} (hroom : o.writeRoom = some room) (hlt : room < bs.length) :
        ended = some writeRefused ∧ written.writeRoom = some 0 := by
      rw [write, hroom] at hwrite
      dsimp only at hwrite
      rw [if_neg (Nat.not_le_of_lt hlt)] at hwrite
      cases hwrite
      exact ⟨rfl, rfl⟩
    rcases h with ⟨room, hroom, hlt⟩ | hflush
    · obtain ⟨rfl, hnone⟩ := hfull hroom hlt
      refine ⟨written, writeRefused, by rw [print, hwrite], .inl ⟨0, hnone, ?_⟩⟩
      omega
    · have hlast : written.flushRoom = some 0 := hflushes.trans hflush
      cases ended with
      | some fault => exact ⟨written, fault, by rw [print, hwrite], .inr hlast⟩
      | none =>
        refine ⟨written, flushRefused, ?_, .inr hlast⟩
        rw [print, hwrite]
        dsimp only
        rw [flush, hlast]

/-- What is not refused is printed. -/
theorem print_of_shows (h : ¬ o.Refuses bs) : (o.print bs).2 = none := by
  have hwrite : (o.write bs).2 = none := by
    unfold write
    split
    · rfl
    · next room hroom =>
      rw [if_pos (Nat.le_of_not_lt fun hlt => h (.inl ⟨room, hroom, hlt⟩))]
  have hflush : (o.write bs).1.flushRoom ≠ some 0 := fun hlast =>
    h (.inr ((o.write_flushRoom bs).symm.trans hlast))
  have hprint : o.print bs = (o.write bs).1.flush := by
    rw [print]
    split
    · next hfault =>
      rw [hfault] at hwrite
      cases hwrite
    · next hwritten => rw [hwritten]
  rw [hprint, flush]
  split
  · rfl
  · next hlast => exact absurd hlast hflush
  · rfl

end Output

/-- The prompt is printed on the standard output. -/
theorem World.showPrompt_eq_print (w : World) (prompt : Text) :
    w.showPrompt prompt =
      (w.onto (w.stdout.print (Utf8.encode prompt)).1, (w.stdout.print (Utf8.encode prompt)).2) := by
  unfold showPrompt writeAll write Output.print
  dsimp only [console]
  rcases w.stdout.write (Utf8.encode prompt) with ⟨written, _ | fault⟩ <;> rfl

/-! ## Reads -/

namespace Editor

open InputEvent (bytes)

/-- **A read takes a byte**, or it fails so that the shell cannot go on. -/
theorem readFrom_takes (e : Editor) (p : Progress) (input : List InputEvent) :
    (∃ failure, (Progress.readFrom e p input).ending = .error failure ∧ failure.isFatal = true) ∨
      ∃ taken, taken ≠ [] ∧ bytes input = taken ++ bytes (Progress.readFrom e p input).rest := by
  induction input generalizing p with
  | nil => exact .inl ⟨.inputClosed, rfl, rfl⟩
  | cons event input ih =>
    cases event with
    | fault k =>
      rw [Progress.readFrom]
      split
      · exact ih p
      · exact .inl ⟨_, rfl, rfl⟩
    | byte b =>
      rw [Progress.readFrom, InputEvent.bytes_byte]
      rcases p.take e b with ⟨q, _ | ending⟩
      · -- the byte is one of those that the read takes in the end
        rcases ih q with hfatal | ⟨taken, -, htaken⟩
        · exact .inl hfatal
        · exact .inr ⟨b :: taken, List.cons_ne_nil b taken, congrArg (b :: ·) htaken⟩
      · exact .inr ⟨[b], List.cons_ne_nil b [], rfl⟩

end Editor

/-! ## Turns -/

namespace Session

variable {s : Shell} {x y : Session}

/-- The bytes of the keys that are still to come. -/
def typed (x : Session) : Bytes := InputEvent.bytes (x.keys.getD [])

/-- The standard output does not show the prompt of the shell. -/
def PromptRefused (s : Shell) (x : Session) : Prop :=
  x.world.stdout.Refuses (Utf8.encode s.settings.prompt)

/-- A command takes no keys. -/
theorem dispatch_keys (s : Shell) (x : Session) (line : Text) :
    (x.dispatch s line).1.keys = x.keys := by
  unfold dispatch
  split
  · rfl
  · rfl
  · split
    · rfl
    · exact tell_keys ..

theorem recover_keys (x : Session) (failure : Failure) : (x.recover failure).1.keys = x.keys := by
  unfold recover
  split
  · rfl
  · exact tell_keys ..

/-! ### Turns without a prompt -/

/-- A prompt that is refused is refused again until the world changes, and the fault is told. -/
theorem exists_step_of_refuses (h : x.PromptRefused s) :
    ∃ o fault, o.Refuses (Utf8.encode s.settings.prompt) ∧
      x.step s =
        (x.moveTo ((x.world.onto o).log (.readFailed (.io fault)))).tell (.io fault) := by
  obtain ⟨o, fault, hprint, ho⟩ := Output.print_of_refuses h
  refine ⟨o, fault, ho, ?_⟩
  rw [step, World.showPrompt_eq_print, hprint]
  exact if_neg Bool.false_ne_true

/-- **A turn without a prompt** takes nothing. -/
theorem step_of_refuses (h : x.PromptRefused s) :
    (x.step s).1.keys = x.keys ∧ (x.step s).1.PromptRefused s := by
  obtain ⟨o, fault, ho, hstep⟩ := exists_step_of_refuses h
  rw [hstep]
  refine ⟨tell_keys .., ?_⟩
  unfold PromptRefused
  rw [tell_stdout]
  show ((x.world.onto o).log _).stdout.Refuses _
  rw [World.log_stdout]
  exact ho

/-- It ends the shell only if the fault cannot be told. -/
theorem ending_of_refuses (h : x.PromptRefused s) {ending : Ending}
    (hending : (x.step s).2 = some ending) :
    (∃ cause, ending = .messageRefused cause) ∧ ¬ x.world.stderr.AcceptsAll := by
  obtain ⟨o, fault, -, hstep⟩ := exists_step_of_refuses h
  rw [hstep] at hending
  obtain ⟨hcause, hnot⟩ := tell_ending hending
  refine ⟨hcause, fun herr => hnot ?_⟩
  exact World.keepsErr_log (x.world.onto o) _ herr

/-- A standard error that accepts everything takes the fault, and accepts everything still. -/
theorem stderr_of_refuses (h : x.PromptRefused s) (herr : x.world.stderr.AcceptsAll) :
    (x.step s).2 = none ∧ (x.step s).1.world.stderr.AcceptsAll := by
  obtain ⟨o, fault, -, hstep⟩ := exists_step_of_refuses h
  rw [hstep]
  exact tell_of_acceptsAll (World.keepsErr_log (x.world.onto o) _ herr) _

/-- From then on the loop goes round for ever, and takes no key. -/
theorem run_of_refuses (h : x.PromptRefused s) (herr : x.world.stderr.AcceptsAll) (n : Nat) :
    (x.run s n).2 = none ∧ (x.run s n).1.keys = x.keys := by
  induction n generalizing x with
  | zero => exact ⟨rfl, rfl⟩
  | succ n ih =>
    obtain ⟨hkeys, hrefused⟩ := step_of_refuses h
    obtain ⟨hending, herr'⟩ := stderr_of_refuses h herr
    rw [run_succ_of_goesOn (y := (x.step s).1) (Prod.ext rfl hending) n, ← hkeys]
    exact ih hrefused herr'

/-! ### Turns with a prompt -/

/-- The turn of a prompt that is shown goes as the read behind the prompt goes. -/
theorem step_of_print {keys : List InputEvent} (hkeys : x.keys = some keys)
    (h : ¬ x.PromptRefused s) :
    ∃ p : Editor.Progress, (x.step s).1.keys = some (Editor.Progress.readFrom s.editor p keys).rest ∧
      ∀ failure, (Editor.Progress.readFrom s.editor p keys).ending = .error failure →
        failure.isFatal = true → (x.step s).2.isSome := by
  let w := x.world.onto (x.world.stdout.print (Utf8.encode s.settings.prompt)).1
  refine ⟨{ output := w.stdout, consumed := 0 }, ?_, ?_⟩
  · rw [step, World.showPrompt_eq_print, Output.print_of_shows h, hkeys]
    dsimp only
    split
    · exact dispatch_keys s _ _
    · rfl
    · exact recover_keys _ _
  · intro failure hending hfatal
    replace hending : (s.readLine w keys).2.ending = .error failure := hending
    rw [step, World.showPrompt_eq_print, Output.print_of_shows h, hkeys]
    dsimp only
    rw [hending]
    dsimp only
    rw [recover, if_pos hfatal]
    rfl

/-- **A turn with a prompt** ends the shell or takes a byte. -/
theorem step_of_shows (h : ¬ x.PromptRefused s) :
    (x.step s).2.isSome ∨ ∃ taken, taken ≠ [] ∧ x.typed = taken ++ (x.step s).1.typed := by
  cases hkeys : x.keys with
  | none =>
    rw [step, World.showPrompt_eq_print, Output.print_of_shows h, hkeys]
    exact .inl rfl
  | some keys =>
    obtain ⟨p, hrest, hends⟩ := step_of_print hkeys h
    rcases Editor.readFrom_takes s.editor p keys with ⟨failure, hending, hfatal⟩ | ⟨taken, hne, htaken⟩
    · exact .inl (hends failure hending hfatal)
    · refine .inr ⟨taken, hne, ?_⟩
      rw [typed, typed, hkeys, hrest]
      exact htaken

/-! ## Many turns -/

/-- Turns that leave the shell running, `prompts` of them with a prompt. Between two turns the world may
    change by itself, so that an output that has refused something accepts again, for a while or for good.
    (Within a turn there is no such change to see: once an output has refused something, the shell prints
    nothing more on it in this turn.) -/
inductive Goes (s : Shell) (x : Session) : Nat → Session → Prop where
  | start : Goes s x 0 x
  | changed {prompts : Nat} {y : Session} (hgoes : Goes s x prompts y) (w : World) :
      Goes s x prompts (y.moveTo w)
  | refused {prompts : Nat} {y : Session} (hgoes : Goes s x prompts y) (hprompt : y.PromptRefused s)
      (hending : (y.step s).2 = none) : Goes s x prompts (y.step s).1
  | shown {prompts : Nat} {y : Session} (hgoes : Goes s x prompts y) (hprompt : ¬ y.PromptRefused s)
      (hending : (y.step s).2 = none) : Goes s x (prompts + 1) (y.step s).1

/-- **Every turn with a prompt takes a byte** if it leaves the shell running, whatever becomes of the world
    in the meantime. -/
theorem Goes.takes {prompts : Nat} (h : Goes s x prompts y) :
    ∃ taken, prompts ≤ taken.length ∧ x.typed = taken ++ y.typed := by
  induction h with
  | start => exact ⟨[], Nat.le_refl 0, rfl⟩
  | changed _ w ih => exact ih
  | @refused _ y _ hprompt hending ih =>
    obtain ⟨taken, hle, htaken⟩ := ih
    obtain ⟨hkeys, -⟩ := step_of_refuses hprompt
    have htyped : (y.step s).1.typed = y.typed := by rw [typed, typed, hkeys]
    exact ⟨taken, hle, htyped ▸ htaken⟩
  | shown _ hprompt hending ih =>
    obtain ⟨taken, hle, htaken⟩ := ih
    obtain ⟨more, hne, hmore⟩ := (step_of_shows hprompt).resolve_left (by rw [hending]; nofun)
    refine ⟨taken ++ more, ?_, ?_⟩
    · have hpos := List.length_pos_iff.mpr hne
      rw [List.length_append]
      omega
    · rw [htaken, hmore, List.append_assoc]

/-- There are no more turns with a prompt than bytes. -/
theorem Goes.le_typed {prompts : Nat} (h : Goes s x prompts y) : prompts ≤ x.typed.length := by
  obtain ⟨taken, hle, htaken⟩ := h.takes
  rw [htaken, List.length_append]
  omega

/-- After a refused prompt, another world may be found with all the keys. -/
theorem goes_of_refuses (h : x.PromptRefused s) (herr : x.world.stderr.AcceptsAll) (w : World) :
    Goes s x 0 ⟨w, x.keys⟩ := by
  obtain ⟨hkeys, -⟩ := step_of_refuses h
  obtain ⟨hending, -⟩ := stderr_of_refuses h herr
  have hgoes : Goes s x 0 ((x.step s).1.moveTo w) := .changed (.refused .start h hending) w
  rw [moveTo, hkeys] at hgoes
  exact hgoes

/-- The turns of a run are followed by those of the session that it leaves, unless it has ended. -/
theorem run_add (s : Shell) (x : Session) (n k : Nat) :
    x.run s (n + k) = if (x.run s n).2.isSome then x.run s n else (x.run s n).1.run s k := by
  induction n generalizing x with
  | zero =>
    rw [Nat.zero_add]
    rfl
  | succ n ih =>
    rw [Nat.add_right_comm]
    cases hending : (x.step s).2 with
    | some ending =>
      have hends := run_succ_of_ends (x := x) (y := (x.step s).1) (Prod.ext rfl hending)
      rw [hends, hends]
      rfl
    | none =>
      have hnext := run_succ_of_goesOn (x := x) (y := (x.step s).1) (Prod.ext rfl hending)
      rw [hnext, hnext, ih]

/-- What a run leaves running was running all the time. -/
theorem run_none_of_le {m n : Nat} (h : (x.run s n).2 = none) (hle : m ≤ n) : (x.run s m).2 = none := by
  obtain ⟨k, rfl⟩ := Nat.exists_eq_add_of_le hle
  rw [run_add] at h
  split at h
  · exact h
  · next hnone => exact Option.not_isSome_iff_eq_none.mp hnone

/-- A run whose prompts are all shown. -/
theorem goes_run {n : Nat} (h : (x.run s n).2 = none)
    (hshown : ∀ m < n, ¬ (x.run s m).1.PromptRefused s) : Goes s x n (x.run s n).1 := by
  induction n with
  | zero => exact .start
  | succ n ih =>
    have hbefore := run_none_of_le h (Nat.le_succ n)
    have hgoes := ih hbefore fun m hm => hshown m (Nat.lt_succ_of_lt hm)
    have hlast : x.run s (n + 1) = (x.run s n).1.step s := by
      rw [run_add, hbefore]
      show (x.run s n).1.run s 1 = _
      rw [run]
      rcases (x.run s n).1.step s with ⟨y, _ | ending⟩ <;> rfl
    rw [hlast] at h ⊢
    exact .shown hgoes (hshown n (Nat.lt_succ_self n)) h

/-- **In one turn more than there are bytes** the shell ends, unless a prompt is refused before that. -/
theorem run_ends_or_refuses (s : Shell) (x : Session) :
    (∀ n, x.typed.length < n → (x.run s n).2.isSome) ∨
      ∃ n, n ≤ x.typed.length ∧ (x.run s n).2 = none ∧ (x.run s n).1.PromptRefused s := by
  refine Classical.or_iff_not_imp_right.mpr fun hnever n hn => ?_
  rw [← Option.ne_none_iff_isSome]
  intro hnone
  -- if it does not, one turn with a prompt too many has been taken
  have hfirst := run_none_of_le hnone hn
  have hgoes := goes_run hfirst fun m hm hrefused =>
    hnever ⟨m, by omega, run_none_of_le hfirst (by omega), hrefused⟩
  exact absurd hgoes.le_typed (Nat.not_succ_le_self _)

/-! ## Summary -/

/-- **A turn whose prompt is shown ends the shell or takes a byte**, whatever becomes of the echoes. A turn
    that is refused its prompt takes nothing, and leaves the shell running if the fault can be told; on a
    standard error that accepts everything, it always can.

    So whatever the standard output accepts and refuses, and whenever it does so, no more turns with a
    prompt leave the shell running than there are bytes to come, and one more ends it. An output that is
    left to itself refuses for good what it has refused once. On such an output the shell has ended in one
    turn more than there are bytes, or a prompt has been refused until then and the loop never ends, if the
    standard error accepts everything at that point. Programs end, and take none of the bytes. -/
theorem turns_take_keys (s : Shell) (x : Session) :
    (¬ x.PromptRefused s →
      (x.step s).2.isSome ∨ ∃ taken, taken ≠ [] ∧ x.typed = taken ++ (x.step s).1.typed) ∧
    (x.PromptRefused s →
      (x.step s).1.keys = x.keys ∧ (x.step s).1.PromptRefused s ∧
        ∀ ending, (x.step s).2 = some ending →
          (∃ cause, ending = .messageRefused cause) ∧ ¬ x.world.stderr.AcceptsAll) ∧
    (∀ prompts y, Goes s x prompts y →
      (∃ taken, prompts ≤ taken.length ∧ x.typed = taken ++ y.typed) ∧
        (prompts = x.typed.length → ¬ y.PromptRefused s → (y.step s).2.isSome)) ∧
    ((∀ n, x.typed.length < n → (x.run s n).2.isSome) ∨
      ∃ n, n ≤ x.typed.length ∧ (x.run s n).1.PromptRefused s ∧
        ((x.run s n).1.world.stderr.AcceptsAll →
          ∀ k, (x.run s (n + k)).2 = none ∧ (x.run s (n + k)).1.keys = (x.run s n).1.keys)) := by
  refine ⟨step_of_shows, ?_, ?_, ?_⟩
  · intro hrefused
    obtain ⟨hkeys, hagain⟩ := step_of_refuses hrefused
    exact ⟨hkeys, hagain, fun ending => ending_of_refuses hrefused⟩
  · intro prompts y hgoes
    refine ⟨hgoes.takes, ?_⟩
    intro hall hprompt
    rw [← Option.ne_none_iff_isSome]
    intro hnone
    have hle := (hgoes.shown hprompt hnone).le_typed
    omega
  · rcases run_ends_or_refuses s x with hends | ⟨n, hn, hnone, hrefused⟩
    · exact .inl hends
    · refine .inr ⟨n, hn, hrefused, ?_⟩
      intro herr k
      rw [run_add, hnone]
      exact run_of_refuses hrefused herr k

/-- The session of somebody who types a line at an output that accepts nothing. -/
def unheard (line : Text) : Session :=
  ⟨{ World.bare with stdout := { writeRoom := some 0 } },
    some (InputEvent.ofBytes (Editor.typedLine line))⟩

/-- An output that refuses a prompt and then accepts everything: the line is read in the second turn. -/
theorem turns_take_keys_recovered :
    let x := unheard "echo".toList
    let y : Session := ⟨.bare, x.keys⟩
    let z := (y.step .bare).1
    x.PromptRefused .bare ∧ Goes .bare x 0 y ∧ Goes .bare x 1 z ∧
      ∃ taken, 1 ≤ taken.length ∧ x.typed = taken ++ z.typed := by
  intro x y z
  have hrefused : x.PromptRefused .bare := .inl ⟨0, rfl, by decide⟩
  have hchanged : Goes .bare x 0 y := goes_of_refuses hrefused ⟨rfl, rfl⟩ .bare
  have hshown : ¬ y.PromptRefused .bare := by
    rintro (⟨room, hroom, -⟩ | hroom) <;> cases hroom
  have hsecond : (y.step .bare).2 = none := by decide +kernel
  have hgoes : Goes .bare x 1 z := .shown hchanged hshown hsecond
  obtain ⟨-, -, hall, -⟩ := turns_take_keys .bare x
  obtain ⟨htakes, -⟩ := hall 1 z hgoes
  exact ⟨hrefused, hchanged, hgoes, htakes⟩

/-- **A refused prompt** takes nothing: on an output that accepts no byte, the line that would end the
    shell is never read. -/
theorem refused_prompt_takes_nothing :
    let x := unheard "exit".toList
    x.typed.length = 5 ∧ x.world.stderr.AcceptsAll ∧ (x.step .bare).2 = none ∧
      (x.step .bare).1.typed = x.typed ∧
      ∀ n, (x.run .bare n).2 = none ∧ (x.run .bare n).1.keys = x.keys := by
  intro x
  have hrefused : x.PromptRefused .bare := .inl ⟨0, rfl, by decide⟩
  have herr : x.world.stderr.AcceptsAll := ⟨rfl, rfl⟩
  obtain ⟨hkeys, -⟩ := step_of_refuses hrefused
  obtain ⟨hending, -⟩ := stderr_of_refuses hrefused herr
  refine ⟨by decide, herr, hending, ?_, run_of_refuses hrefused herr⟩
  rw [typed, typed, hkeys]

end Session

end CommandShell
