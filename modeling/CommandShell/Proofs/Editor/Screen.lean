import CommandShell.Proofs.Completion.Exact
import CommandShell.Proofs.Editor.Moment
import CommandShell.Proofs.Editor.State
import CommandShell.Proofs.Output
import CommandShell.Proofs.Terminal

/-!
# `CommandShell.Proofs.Editor.Screen` — the screen shows the line

What the editor echoes for a key changes the screen as the key changes the line. Since every echo is
written before the next key is looked at, the screen shows prompt and line whenever a key has been
handled, and nothing else.

## Contents
- **Plain texts.** `Editor.IsPlain`, the editors whose prompt and names have no control character;
  `IsPlain.direct` and `IsPlain.choice`, what such an editor completes.
- **Reactions.** `Reaction.InStep`, proved for every key by `press_inStep`.
- **Reads.** `Moment.InStep` is kept by every step (`step_inStep`) and so by every run
  (`reaches_inStep`); `shows_line` says it in terms of cells.
-/

namespace CommandShell

/-! ## Plain texts -/

theorem Text.IsPlain.of_isPrefix {s t : Text} (ht : t.IsPlain) (h : s <+: t) : s.IsPlain :=
  fun c hc => ht c (h.subset hc)

/-- Plain texts joined by a plain text are plain. -/
theorem Text.IsPlain.intercalate {gap : Text} {ts : List Text} (hgap : gap.IsPlain)
    (hts : ∀ t ∈ ts, Text.IsPlain t) : Text.IsPlain (List.intercalate gap ts) := by
  induction ts with
  | nil => exact fun c hc => absurd hc List.not_mem_nil
  | cons t ts ih =>
    have ht := hts t List.mem_cons_self
    cases ts with
    | nil =>
      rw [List.intercalate_singleton]
      exact ht
    | cons u us =>
      rw [List.intercalate_cons_cons]
      exact (ht.append hgap).append (ih fun x hx => hts x (List.mem_cons_of_mem t hx))

namespace Editor

/-- No control character stands in the prompt or in a name. -/
structure IsPlain (e : Editor) : Prop where
  prompt : e.prompt.IsPlain
  names : ∀ n ∈ e.registry.names, Text.IsPlain n

variable {e : Editor} {s : State} {c : Char}

/-- What completes a line is plain: it is part of a name, or the space behind one. -/
theorem IsPlain.direct (he : e.IsPlain) {p suffix : Text}
    (h : e.registry.complete p = .direct suffix) : suffix.IsPlain := by
  obtain ⟨n, hn, hprefix⟩ := Registry.exists_of_complete_direct h
  have hspace : Text.IsPlain [' '] := by decide
  have hwhole := ((he.names n hn).append hspace).of_isPrefix hprefix
  exact fun c hc => hwhole c (List.mem_append_right p hc)

/-- The names of a choice are plain. -/
theorem IsPlain.choice (he : e.IsPlain) {p : Text} {names : List Text}
    (h : e.registry.complete p = .choice names) : ∀ n ∈ names, Text.IsPlain n := by
  intro n hn
  rw [Registry.withPrefix_of_complete_choice h] at hn
  exact he.names n (Registry.mem_withPrefix.mp hn).1

/-! ## Reactions -/

/-- The line that is on the screen. -/
def shown (e : Editor) (buffer : Text) : Text := e.prompt ++ buffer

/-- A reaction that changes the screen as it changes the line, and leaves a plain line. -/
structure Reaction.InStep (e : Editor) (buffer : Text) (r : Reaction) : Prop where
  plain : r.state.buffer.IsPlain
  feed : (Screen.ofLine (e.shown buffer)).feed r.echo = some (.ofLine (e.shown r.state.buffer))

/-- The list of names leaves prompt and line on a fresh line. -/
theorem feed_listing (he : e.IsPlain) (screen : Screen) {names : List Text} {buffer : Text}
    (hnames : ∀ n ∈ names, Text.IsPlain n) (hbuffer : buffer.IsPlain) :
    screen.feed (e.listing names buffer) = some (.ofLine (e.shown buffer)) := by
  have hgap : Text.IsPlain columnGap := by decide
  have hlist := Text.IsPlain.intercalate hgap hnames
  unfold listing
  rw [List.append_assoc _ e.prompt buffer, List.append_assoc, List.append_assoc,
    Screen.feed_append, Screen.feed_lineBreak, Option.bind_some, Screen.feed_append,
    Screen.feed_plain [] hlist, Option.bind_some, Screen.feed_append, Screen.feed_lineBreak,
    Option.bind_some, Screen.feed_plain [] (he.prompt.append hbuffer)]
  rfl

/-- Backspace takes the last character off the line and off the screen. -/
theorem pressErase_inStep (hs : s.buffer.IsPlain) : (pressErase s).InStep e s.buffer := by
  unfold pressErase
  by_cases hempty : s.buffer = []
  · rw [if_pos hempty]
    exact ⟨hs, rfl⟩
  · rw [if_neg hempty]
    refine ⟨hs.of_isPrefix (List.dropLast_prefix s.buffer), ?_⟩
    -- the last character of the line is the last one on the screen, right of the prompt
    have hline : e.shown s.buffer =
        e.shown s.buffer.dropLast ++ [s.buffer.getLast hempty] := by
      unfold shown
      rw [List.append_assoc, List.dropLast_concat_getLast hempty]
    rw [hline]
    exact Screen.feed_eraseEcho _ _

/-- Tab adds what it shows, or leaves the line as it is. -/
theorem pressTab_inStep (he : e.IsPlain) (hs : s.buffer.IsPlain) :
    (e.pressTab s).InStep e s.buffer := by
  unfold pressTab
  dsimp only
  split
  · next suffix hdirect =>
    have hsuffix := he.direct hdirect
    refine ⟨hs.append hsuffix, ?_⟩
    show _ = some (Screen.ofLine (e.prompt ++ (s.buffer ++ suffix)))
    rw [← List.append_assoc]
    exact Screen.feed_plain _ hsuffix
  · exact ⟨hs, Screen.feed_bell _⟩
  · next names hchoice =>
    -- the first Tab only rings; the list of the second one brings the line back
    split
    · exact ⟨hs, Screen.feed_bell _⟩
    · exact ⟨hs, feed_listing he _ (he.choice hchoice) hs⟩

/-- A character that is not ignored and has no function of its own is no control character. -/
theorem not_control_of_not_isIgnored (hinterrupt : c ≠ Text.interruptKey)
    (henter : ¬ (c = '\r' ∨ c = '\n')) (herase : c ≠ Text.eraseKey) (htab : c ≠ '\t')
    (hescape : c ≠ Text.escapeKey) (h : ¬ isIgnored c = true) : Text.isControl c = false := by
  obtain ⟨hreturn, hfeed⟩ := not_or.mp henter
  rw [Bool.not_eq_true] at h
  unfold isIgnored at h
  simp only [bne_iff_ne.mpr hinterrupt, bne_iff_ne.mpr hreturn, bne_iff_ne.mpr hfeed,
    bne_iff_ne.mpr herase, bne_iff_ne.mpr htab, bne_iff_ne.mpr hescape, Bool.and_true] at h
  exact h

/-- A key outside escape sequences, unless it ends the read. -/
theorem act_inStep (he : e.IsPlain) (hs : s.buffer.IsPlain) (h : (e.act s c).ending = none) :
    (e.act s c).InStep e s.buffer := by
  unfold act at h ⊢
  by_cases hinterrupt : c = Text.interruptKey
  · rw [if_pos hinterrupt] at h
    cases h
  rw [if_neg hinterrupt] at h ⊢
  by_cases henter : c = '\r' ∨ c = '\n'
  · rw [if_pos henter] at h
    cases h
  rw [if_neg henter]
  by_cases herase : c = Text.eraseKey
  · rw [if_pos herase]
    exact pressErase_inStep hs
  rw [if_neg herase]
  by_cases htab : c = '\t'
  · rw [if_pos htab]
    exact pressTab_inStep he hs
  rw [if_neg htab]
  by_cases hescape : c = Text.escapeKey
  · rw [if_pos hescape]
    exact ⟨hs, rfl⟩
  rw [if_neg hescape]
  by_cases hignored : isIgnored c = true
  · rw [if_pos hignored]
    exact ⟨hs, rfl⟩
  rw [if_neg hignored]
  -- what is left is typed and shown
  have hc : Text.IsPlain [c] := by
    intro d hd
    rw [List.mem_singleton.mp hd]
    exact not_control_of_not_isIgnored hinterrupt henter herase htab hescape hignored
  refine ⟨hs.append hc, ?_⟩
  show _ = some (Screen.ofLine (e.prompt ++ (s.buffer ++ [c])))
  rw [← List.append_assoc]
  exact Screen.feed_plain _ hc

/-- **Every key that does not end the read** changes the screen as it changes the line. -/
theorem press_inStep (he : e.IsPlain) (hs : s.buffer.IsPlain) (h : (e.press s c).ending = none) :
    (e.press s c).InStep e s.buffer := by
  have hbuffer := beforeKey_buffer s c
  unfold press at h ⊢
  split at h
  · -- a key of an escape sequence shows nothing and leaves the line alone
    constructor
    · show (beforeKey s c).buffer.IsPlain
      rw [hbuffer]
      exact hs
    · show _ = some (Screen.ofLine (e.shown (beforeKey s c).buffer))
      rw [hbuffer]
      rfl
  · rw [← hbuffer] at hs ⊢
    exact act_inStep (s := { beforeKey s c with escape := .outside }) he hs h

/-! ## Reads -/

/-- What is shown without a fault is added to the output as a whole. -/
theorem text_of_show {p q : Progress} {echo : Bytes} (h : p.show echo = (q, none)) :
    q.output.text = p.output.text ++ echo ∧ q.state = p.state := by
  unfold Progress.show at h
  split at h
  · cases h
  · next written hwrite =>
    have haccepted : (p.output.write echo).2 = none := by rw [hwrite]
    have htext := Output.text_write_of_accepted haccepted
    rw [hwrite] at htext
    split at h
    · cases h
    · next flushed hflush =>
      obtain rfl := (Prod.mk.inj h).1
      refine ⟨?_, rfl⟩
      rw [← htext, ← Output.text_flush written, hflush]

/-- A key that does not end the read: its echo is added to the output. -/
theorem text_of_press {p q : Progress} {key : Key} (h : p.press e key = (q, none)) :
    (e.press p.state key.typed).ending = none ∧
      q.state = (e.press p.state key.typed).state ∧
      q.output.text = p.output.text ++ Utf8.encode (e.press p.state key.typed).echo := by
  unfold Progress.press at h
  dsimp only at h
  split at h
  · cases h
  · next shown hshow =>
    obtain ⟨rfl, hending⟩ := Prod.mk.inj h
    obtain ⟨htext, hstate⟩ := text_of_show hshow
    exact ⟨Option.map_eq_none_iff.mp hending, hstate, htext⟩

/-- At a moment of a read: the line is plain, and what was written since the start of the read turns
    a screen that shows the prompt into one that shows prompt and line. -/
def Moment.InStep (e : Editor) (before : Bytes) (m : Moment) : Prop :=
  m.progress.state.buffer.IsPlain ∧
    ∃ t : Text, m.progress.output.text = before ++ Utf8.encode t ∧
      (Screen.ofLine e.prompt).feed t = some (.ofLine (e.shown m.progress.state.buffer))

/-- At the start nothing is written and the line is empty. -/
theorem start_inStep (e : Editor) (output : Output) (consumed : Nat) (input : List InputEvent) :
    (Moment.start output consumed input).InStep e output.text := by
  refine ⟨fun c hc => absurd hc List.not_mem_nil, [], (List.append_nil _).symm, ?_⟩
  show some _ = some (Screen.ofLine (e.prompt ++ []))
  rw [List.append_nil]

/-- **One step** keeps screen and line in step. Only a key changes either of them. -/
theorem step_inStep (he : e.IsPlain) {before : Bytes} {m m' : Moment} (hm : m.InStep e before)
    (h : m.Step e m') : m'.InStep e before := by
  cases h with
  | @key p q key keys input h =>
    obtain ⟨hplain, t, htext, hfeed⟩ := hm
    obtain ⟨hending, hstate, hadded⟩ := text_of_press h
    obtain ⟨hplain', hecho⟩ := press_inStep he hplain hending
    unfold Moment.InStep
    dsimp only
    rw [hstate]
    refine ⟨hplain', t ++ (e.press p.state key.typed).echo, ?_, ?_⟩
    · rw [hadded, Utf8.encode_append, ← List.append_assoc]
      exact congrArg (· ++ _) htext
    · rw [Screen.feed_append, hfeed, Option.bind_some]
      exact hecho
  | byte => exact hm
  | retry _ => exact hm

/-- **Every run** keeps screen and line in step. -/
theorem reaches_inStep (he : e.IsPlain) {output : Output} {consumed : Nat}
    {input : List InputEvent} {m : Moment}
    (h : Moment.Reaches e (.start output consumed input) m) : m.InStep e output.text := by
  have hstart := start_inStep e output consumed input
  induction h with
  | refl => exact hstart
  | tail _ hstep ih => exact step_inStep he ih hstep

/-- **The screen shows the line.** Take a screen that shows just the prompt. At every moment of a
    read, replaying on it what was written since the start gives a screen that shows just the prompt
    and the line, and the line has no control character. -/
theorem shows_line {e : Editor} (he : e.IsPlain) {output : Output} {consumed : Nat}
    {input : List InputEvent} {m : Moment}
    (h : Moment.Reaches e (.start output consumed input) m) {screen : Screen}
    (hscreen : screen.Shows e.prompt) :
    e.readFrom output consumed input = m.outcome e ∧
      m.progress.state.buffer.IsPlain ∧
      ∃ written, m.progress.output.text = output.text ++ written ∧
        ∃ screen', screen.replay written = some screen' ∧
          screen'.Shows (e.prompt ++ m.progress.state.buffer) := by
  obtain ⟨hplain, t, htext, hfeed⟩ := reaches_inStep he h
  refine ⟨Moment.outcome_of_reaches h, hplain, Utf8.encode t, htext, _, ?_,
    Screen.shows_ofLine _⟩
  rw [Screen.replay_encode, hscreen.eq_ofLine]
  exact hfeed

/-- Two Tabs behind the first character of two names: the list of both is shown, and below it prompt
    and line again. -/
theorem shows_line_below_list :
    let e : Editor := ⟨.ofNames ["exit".toList, "echo".toList], "$ ".toList⟩
    ∃ m, Moment.Reaches e (.start {} 0 (InputEvent.ofBytes [0x65, 0x09, 0x09])) m ∧
      m.progress.state.buffer = "e".toList ∧
      m.progress.output.text = Utf8.encode "e\x07\r\necho  exit\r\n$ e".toList ∧
      ∃ written, m.progress.output.text = [] ++ written ∧
        ∃ screen, (Screen.ofLine e.prompt).replay written = some screen ∧
          screen.Shows (e.prompt ++ m.progress.state.buffer) := by
  intro e
  have he : e.IsPlain := ⟨by decide, by decide⟩
  have hreaches : Moment.Reaches e (.start {} 0 (InputEvent.ofBytes [0x65, 0x09, 0x09])) _ :=
    .tail (.tail (.tail (.tail (.tail (.tail .refl .byte) (.key rfl)) .byte) (.key rfl)) .byte)
      (.key rfl)
  obtain ⟨-, -, hshows⟩ := shows_line he hreaches (Screen.shows_ofLine e.prompt)
  exact ⟨_, hreaches, rfl, rfl, hshows⟩

end Editor

end CommandShell
