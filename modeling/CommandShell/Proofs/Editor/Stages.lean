import CommandShell.Proofs.Completion.Settled
import CommandShell.Proofs.Editor.Typing
import Mathlib.Data.List.Infix

/-!
# `CommandShell.Proofs.Editor.Stages` — a line, stage by stage

The editor takes every key once, and decides at once whether it is a part of an escape sequence, does nothing
or edits the line. The same line comes out in three stages, each over all keys: the escape sequences are
taken out, then the control characters that edit nothing, and what is left edits an empty line. Neither the
prompt nor the row of Tabs plays a part in that. What is shown is what the keys that are left show alone,
unless some that are left out stand between two Tabs that are neighbours without them.

## Contents
- **Stages.** `withoutSequences`, `withoutControls` and `edited`; `editingKeys` are the keys that are left
  after two stages.
- **Machine.** `Escape.tail` tells how many of the next keys the sequence at hand still takes, so that
  `remaining` are the editing keys from any state on: `remaining_cons`.
- **Lines.** `press_of_not_edits` and `press_edit` for one key; `keys_buffer`.
- **Echoes.** `TabRowsWhole`, and `State.Alike` for the states of two reads, with all keys and with the
  editing keys only; `keys_shown`.
- **Bytes.** `typed_keysBefore` says which keys some bytes are; `readFrom_enter` and `alone_editing` read
  them.
- **Summary.** `line_in_stages`.
-/

namespace CommandShell

namespace Editor

/-! ## Stages -/

/-- How many keys belong to the sequence behind `ESC [`: those up to its final character, which is one from
    `@` to `~`, unless a control character or the end of the keys comes first. -/
def csiTail : Text → Nat
  | [] => 0
  | c :: keys =>
    if Text.isControl c then 0 else if '@' ≤ c ∧ c ≤ '~' then 1 else csiTail keys + 1

/-- How many keys belong to the sequence behind `ESC O`: one, unless it is a control character. -/
def ss3Tail : Text → Nat
  | [] => 0
  | c :: _ => if Text.isControl c then 0 else 1

/-- How many keys belong to the sequence behind an ESC. -/
def sequenceTail : Text → Nat
  | [] => 0
  | c :: keys => if c = '[' then csiTail keys + 1 else if c = 'O' then ss3Tail keys + 1 else 0

/-- Takes the first `n` keys out, which belong to a sequence, and all sequences behind them. -/
def dropSequences : Nat → Text → Text
  | _, [] => []
  | n + 1, _ :: keys => dropSequences n keys
  | 0, c :: keys =>
    if c = Text.escapeKey then dropSequences (sequenceTail keys) keys else c :: dropSequences 0 keys

/-- The first stage: the keys without the escape sequences among them. -/
def withoutSequences (keys : Text) : Text := dropSequences 0 keys

/-- A key that edits the line: a character that is shown, Backspace or Tab. -/
def isEditing (c : Char) : Bool := !Text.isControl c || c == Text.eraseKey || c == '\t'

/-- The second stage: the keys without the control characters that edit nothing. -/
def withoutControls (keys : Text) : Text := keys.filter isEditing

/-- The keys that are left after both stages. -/
def editingKeys (keys : Text) : Text := withoutControls (withoutSequences keys)

/-- What a key makes of the line: Backspace takes its last character away, Tab completes it, and any other
    key is put behind it. -/
def edit (r : Registry) (line : Text) (c : Char) : Text :=
  if c = Text.eraseKey then line.dropLast else if c = '\t' then completed r line else line ++ [c]

/-- The third stage: the line that some keys make of an empty one. -/
def edited (r : Registry) (keys : Text) : Text := keys.foldl (edit r) []

example : editingKeys "a\x1b[1;5Cb\x1bOP\x07c\x1b[1\td".toList = "abc\td".toList := by decide

/-! ## Machine -/

end Editor

namespace Escape

/-- How many of the next keys belong to a sequence that has come so far. -/
def tail : Escape → Text → Nat
  | .outside, _ => 0
  | .start, keys => Editor.sequenceTail keys
  | .csi, keys => Editor.csiTail keys
  | .ss3, keys => Editor.ss3Tail keys

/-- Where the sequence stands after a character that is a part of it or not. -/
def after (esc : Escape) (c : Char) : Escape :=
  (esc.skip? c).getD (if c = Text.escapeKey then .start else .outside)

/-- A part of a sequence is one of the keys that it takes. -/
theorem tail_of_skip {esc next : Escape} {c : Char} (h : esc.skip? c = some next) (keys : Text) :
    esc.tail (c :: keys) = next.tail keys + 1 := by
  cases esc with
  | outside => cases h
  | start =>
    rw [skip?] at h
    rw [tail, Editor.sequenceTail]
    split at h
    · next hbracket =>
      cases h
      rw [if_pos hbracket, tail]
    · next hbracket =>
      split at h
      · next hO =>
        cases h
        rw [if_neg hbracket, if_pos hO, tail]
      · cases h
  | csi =>
    rw [skip?] at h
    rw [tail, Editor.csiTail]
    split at h
    · cases h
    · next hcontrol =>
      rw [if_neg hcontrol]
      split at h
      · next hfinal =>
        cases h
        rw [if_pos hfinal, tail]
      · next hfinal =>
        cases h
        rw [if_neg hfinal, tail]
  | ss3 =>
    rw [skip?] at h
    rw [tail, Editor.ss3Tail]
    split at h
    · cases h
    · next hcontrol =>
      cases h
      rw [if_neg hcontrol, tail]

/-- No key that acts belongs to a sequence. -/
theorem tail_of_acts {esc : Escape} {c : Char} (h : esc.skip? c = none) (keys : Text) :
    esc.tail (c :: keys) = 0 := by
  cases esc with
  | outside => rfl
  | start =>
    rw [skip?] at h
    rw [tail, Editor.sequenceTail]
    split at h
    · cases h
    · next hbracket =>
      split at h
      · cases h
      · next hO => rw [if_neg hbracket, if_neg hO]
  | csi =>
    rw [skip?] at h
    rw [tail, Editor.csiTail]
    split at h
    · next hcontrol => rw [if_pos hcontrol]
    · split at h <;> cases h
  | ss3 =>
    rw [skip?] at h
    rw [tail, Editor.ss3Tail]
    split at h
    · next hcontrol => rw [if_pos hcontrol]
    · cases h

end Escape

namespace Editor

open Bytes (isTerminator)

/-- The editing keys that are left when a sequence has come so far. -/
def remaining (esc : Escape) (keys : Text) : Text :=
  withoutControls (dropSequences (esc.tail keys) keys)

/-- Whether a key edits the line when a sequence has come so far. -/
def edits (esc : Escape) (c : Char) : Bool := (esc.skip? c).isNone && isEditing c

theorem remaining_nil (esc : Escape) : remaining esc [] = [] := by
  unfold remaining dropSequences
  rfl

/-- **One key** is left or not, and the others are left as they are left behind it. -/
theorem remaining_cons (esc : Escape) (c : Char) (keys : Text) :
    remaining esc (c :: keys) =
      if edits esc c then c :: remaining (esc.after c) keys else remaining (esc.after c) keys := by
  unfold remaining edits Escape.after
  cases hskip : esc.skip? c with
  | some next =>
    rw [Escape.tail_of_skip hskip, dropSequences]
    rfl
  | none =>
    rw [Escape.tail_of_acts hskip, dropSequences]
    by_cases hescape : c = Text.escapeKey
    · have hnot : isEditing c = false := by
        rw [hescape]
        decide
      rw [if_pos hescape, hnot]
      simp [hescape, Escape.tail]
    · rw [if_neg hescape, withoutControls, List.filter_cons]
      simp [hescape, Escape.tail, withoutControls]

theorem remaining_outside (keys : Text) : remaining .outside keys = editingKeys keys := rfl

/-- An editing key belongs to no sequence and begins none. -/
theorem edits_iff {esc : Escape} {c : Char} :
    edits esc c = true ↔ esc.skip? c = none ∧ isEditing c = true := by
  rw [edits, Bool.and_eq_true, Option.isNone_iff_eq_none]

theorem after_of_edits {esc : Escape} {c : Char} (h : edits esc c = true) :
    esc.after c = .outside := by
  obtain ⟨hskip, hediting⟩ := edits_iff.mp h
  have hescape : c ≠ Text.escapeKey := by
    rintro rfl
    revert hediting
    decide
  rw [Escape.after, hskip, if_neg hescape]
  rfl

/-- Tab always edits the line: no sequence takes it. -/
theorem edits_tab (esc : Escape) : edits esc '\t' = true :=
  edits_iff.mpr ⟨Escape.skip?_control (by decide) esc, by decide⟩

/-! ## Lines -/

/-- **A key that is left out** shows nothing and leaves the line as it is; but it ends a row of Tabs. -/
theorem press_of_not_edits (e : Editor) {s : State} {c : Char} (h : edits s.escape c = false)
    (hc : ¬ endsRead c) :
    e.press s c = { state := { s with tabs := 0, escape := s.escape.after c } } := by
  have htab : c ≠ '\t' := by
    rintro rfl
    rw [edits_tab] at h
    cases h
  unfold press beforeKey Escape.after
  rw [if_neg htab]
  cases hskip : s.escape.skip? c with
  | some next => rfl
  | none =>
    rw [edits, hskip, Option.isNone_none, Bool.true_and] at h
    simp only [endsRead, not_or] at hc
    obtain ⟨hinterrupt, hreturn, hfeed⟩ := hc
    simp only [isEditing, Bool.or_eq_false_iff, Bool.not_eq_false', beq_eq_false_iff_ne] at h
    obtain ⟨⟨hcontrol, herase⟩, -⟩ := h
    dsimp only [Option.getD_none]
    rw [act, if_neg hinterrupt, if_neg (not_or.mpr ⟨hreturn, hfeed⟩), if_neg herase, if_neg htab]
    by_cases hescape : c = Text.escapeKey
    · rw [if_pos hescape, if_pos hescape]
    · have hignored : isIgnored c = true := by
        simp [isIgnored, *]
      rw [if_neg hescape, if_neg hescape, if_pos hignored]

theorem press_of_edits (e : Editor) {s : State} {c : Char} (h : edits s.escape c = true) :
    e.press s c = e.act { beforeKey s c with escape := .outside } c := by
  rw [press, (edits_iff.mp h).1]

theorem pressTab_escape (e : Editor) (s : State) : (e.pressTab s).state.escape = s.escape := by
  unfold pressTab
  dsimp only
  split
  · rfl
  · rfl
  · split <;> rfl

/-- **An editing key** edits the line. It stands outside all sequences, and only a Tab counts. -/
theorem press_edit (e : Editor) {s : State} {c : Char} (h : edits s.escape c = true) :
    (e.press s c).state.buffer = edit e.registry s.buffer c ∧
      (e.press s c).state.escape = .outside ∧ (c ≠ '\t' → (e.press s c).state.tabs = 0) := by
  by_cases htab : c = '\t'
  · subst htab
    refine ⟨press_tab_buffer e s, ?_, fun hne => absurd rfl hne⟩
    rw [press_of_edits e h]
    exact pressTab_escape e _
  rw [press_of_edits e h, beforeKey, if_neg htab]
  unfold edit
  by_cases herase : c = Text.eraseKey
  · subst herase
    rw [if_pos rfl]
    show (pressErase _).state.buffer = _ ∧ (pressErase _).state.escape = _ ∧
      (_ → (pressErase _).state.tabs = 0)
    unfold pressErase
    split
    · next hnil => exact ⟨by rw [show s.buffer = [] from hnil]; rfl, rfl, fun _ => rfl⟩
    · exact ⟨rfl, rfl, fun _ => rfl⟩
  · have hplain : Text.isControl c = false := by
      have hediting := (edits_iff.mp h).2
      simpa [isEditing, htab, herase] using hediting
    rw [act_plain e _ hplain, if_neg herase, if_neg htab]
    exact ⟨rfl, rfl, fun _ => rfl⟩

/-- **The line** that some keys leave is what the editing keys among them make of the line before. -/
theorem keys_buffer (e : Editor) (t : Typing) {ks : List Key} (hks : ∀ k ∈ ks, ¬ endsRead k.typed) :
    (t.keys e ks).state.buffer =
      (remaining t.state.escape (ks.map Key.typed)).foldl (edit e.registry) t.state.buffer := by
  induction ks generalizing t with
  | nil =>
    rw [List.map_nil, remaining_nil]
    rfl
  | cons k ks ih =>
    have hstate : (t.key e k).state = (e.press t.state k.typed).state := rfl
    rw [Typing.keys_cons, ih _ fun x hx => hks x (List.mem_cons_of_mem k hx), hstate, List.map_cons,
      remaining_cons]
    cases hedits : edits t.state.escape k.typed with
    | true =>
      obtain ⟨hbuffer, hescape, -⟩ := press_edit e hedits
      rw [hbuffer, hescape, after_of_edits hedits, if_pos rfl, List.foldl_cons]
    | false =>
      rw [press_of_not_edits e hedits (hks k List.mem_cons_self), if_neg Bool.false_ne_true]

/-! ## Echoes -/

/-- Keys that are left out can only stand between two Tabs if others stand there too. So the rows of Tabs
    among the keys are those among the editing keys. -/
def TabRowsWhole (keys : Text) : Prop :=
  ∀ between, '\t' :: (between ++ ['\t']) <:+: keys → editingKeys between = [] → between = []

instance (keys : Text) : Decidable (TabRowsWhole keys) :=
  decidable_of_iff
    (∀ t ∈ keys.tails, ∀ p ∈ t.inits, p = '\t' :: (p.tail.dropLast ++ ['\t']) →
      editingKeys p.tail.dropLast = [] → p.tail.dropLast = [])
    (by
      constructor
      · intro h between hpart
        obtain ⟨t, hp, ht⟩ := List.infix_iff_prefix_suffix.mp hpart
        have hsplit := h t ((List.mem_tails _ _).mpr ht) _ ((List.mem_inits _ _).mpr hp)
        rw [List.tail_cons, List.dropLast_concat] at hsplit
        exact hsplit rfl
      · intro h t ht p hp heq
        refine h _ ?_
        rw [← heq]
        exact ((List.mem_inits _ _).mp hp).isInfix.trans ((List.mem_tails _ _).mp ht).isInfix)

/-- In particular, the rows are whole if no key at all is left out between two Tabs. -/
theorem TabRowsWhole.of_nothing_left_out {keys : Text}
    (h : ∀ between, '\t' :: (between ++ ['\t']) <:+: keys → editingKeys between = between) :
    TabRowsWhole keys := by
  intro between hpart hnil
  rw [← h between hpart, hnil]

theorem TabRowsWhole.of_cons {c : Char} {keys : Text} (h : TabRowsWhole (c :: keys)) :
    TabRowsWhole keys :=
  fun between hpart => h between (hpart.trans (List.suffix_cons c keys).isInfix)

/-- The first key that is left stands behind keys that are not. -/
theorem remaining_eq_cons {esc : Escape} {keys more : Text} {c : Char}
    (h : remaining esc keys = c :: more) :
    ∃ before after, keys = before ++ c :: after ∧ remaining esc before = [] := by
  induction keys generalizing esc with
  | nil =>
    rw [remaining_nil] at h
    cases h
  | cons k keys ih =>
    rw [remaining_cons] at h
    split at h
    · cases h
      exact ⟨[], keys, rfl, remaining_nil esc⟩
    · next hedits =>
      obtain ⟨before, after, rfl, hbefore⟩ := ih h
      exact ⟨k :: before, after, rfl, by rw [remaining_cons, if_neg hedits, hbefore]⟩

/-- The states of two reads, one of all keys and one of the editing keys only, before the keys `rest` of the
    first one. A key that was left out has ended the row of Tabs in the first read only, but then the next
    key of the second one is no Tab. -/
structure State.Alike (s s' : State) (rest : Text) : Prop where
  buffer : s.buffer = s'.buffer
  escape : s'.escape = .outside
  tabs : s.tabs = s'.tabs ∨ s.tabs = 0 ∧ (remaining s.escape rest).head? ≠ some '\t'
  whole : TabRowsWhole rest
  row : s.tabs = 0 ∨ s.escape = .outside ∧ TabRowsWhole ('\t' :: rest)

/-- **A key that is left out** is no key of the second read. -/
theorem State.Alike.left_out {s s' : State} {c : Char} {rest : Text} (h : s.Alike s' (c :: rest))
    (hc : edits s.escape c = false) :
    State.Alike { s with tabs := 0, escape := s.escape.after c } s' rest := by
  have hremaining : remaining s.escape (c :: rest) = remaining (s.escape.after c) rest := by
    rw [remaining_cons, hc, if_neg Bool.false_ne_true]
  refine ⟨h.buffer, h.escape, ?_, h.whole.of_cons, .inl rfl⟩
  rcases h.row with hzero | ⟨hescape, hwhole⟩
  · rcases h.tabs with htabs | ⟨-, hhead⟩
    · exact .inl (hzero.symm.trans htabs)
    · exact .inr ⟨rfl, hremaining ▸ hhead⟩
  · -- a Tab was before, so no Tab is the next key that is left
    refine .inr ⟨rfl, fun hhead => ?_⟩
    obtain ⟨more, hmore⟩ := List.head?_eq_some_iff.mp hhead
    obtain ⟨before, after, rfl, hbefore⟩ := remaining_eq_cons hmore
    have hnil : editingKeys (c :: before) = [] := by
      rw [← remaining_outside, remaining_cons, ← hescape, hc, if_neg Bool.false_ne_true, hbefore]
    have hprefix : '\t' :: (c :: before ++ ['\t']) <+: '\t' :: c :: (before ++ '\t' :: after) :=
      ⟨after, by simp⟩
    cases hwhole (c :: before) hprefix.isInfix hnil

/-- **An editing key** does the same in both reads. -/
theorem State.Alike.press {s s' : State} {c : Char} {rest : Text} (h : s.Alike s' (c :: rest))
    (e : Editor) (hc : edits s.escape c = true) :
    e.press s c = e.press s' c ∧
      State.Alike (e.press s c).state (e.press s' c).state rest := by
  have hc' : edits s'.escape c = true := by
    rw [h.escape]
    exact edits_iff.mpr ⟨rfl, (edits_iff.mp hc).2⟩
  have htabs : c = '\t' → s.tabs = s'.tabs := by
    rintro rfl
    refine h.tabs.resolve_right fun ⟨_, hhead⟩ => hhead ?_
    rw [remaining_cons, if_pos hc]
    rfl
  have hsame : e.press s c = e.press s' c := by
    rw [press_of_edits e hc, press_of_edits e hc']
    have hbefore : (beforeKey s c).buffer = (beforeKey s' c).buffer ∧
        (beforeKey s c).tabs = (beforeKey s' c).tabs := by
      unfold beforeKey
      by_cases htab : c = '\t'
      · rw [if_pos htab, if_pos htab]
        exact ⟨h.buffer, htabs htab⟩
      · rw [if_neg htab, if_neg htab]
        exact ⟨h.buffer, rfl⟩
    show e.act ⟨_, _, .outside⟩ c = e.act ⟨_, _, .outside⟩ c
    rw [hbefore.1, hbefore.2]
  obtain ⟨-, hescape, hzero⟩ := press_edit e hc
  refine ⟨hsame, ?_⟩
  rw [← hsame]
  refine ⟨rfl, hescape, .inl rfl, h.whole.of_cons, ?_⟩
  by_cases htab : c = '\t'
  · exact .inr ⟨hescape, htab ▸ h.whole⟩
  · exact .inl (hzero htab)

/-- **What some keys show** is what the editing keys among them show. -/
theorem keys_shown (e : Editor) (t t' : Typing) {ks : List Key}
    (hks : ∀ k ∈ ks, ¬ endsRead k.typed) (h : t.state.Alike t'.state (ks.map Key.typed))
    (hshown : t.shown = t'.shown) :
    (t.keys e ks).shown =
      (t'.keys e ((remaining t.state.escape (ks.map Key.typed)).map .char)).shown := by
  induction ks generalizing t t' with
  | nil =>
    rw [List.map_nil, remaining_nil]
    exact hshown
  | cons k ks ih =>
    have hrest : ∀ x ∈ ks, ¬ endsRead x.typed := fun x hx => hks x (List.mem_cons_of_mem k hx)
    have hstate : (t.key e k).state = (e.press t.state k.typed).state := rfl
    rw [List.map_cons] at h ⊢
    rw [Typing.keys_cons, remaining_cons]
    cases hedits : edits t.state.escape k.typed with
    | true =>
      obtain ⟨hsame, halike⟩ := h.press e hedits
      rw [if_pos rfl, List.map_cons, Typing.keys_cons, after_of_edits hedits,
        ← (press_edit e hedits).2.1]
      refine ih _ _ hrest halike ?_
      show t.shown ++ _ = t'.shown ++ _
      rw [hshown, hsame]
      rfl
    | false =>
      have hpress := press_of_not_edits e hedits (hks k List.mem_cons_self)
      have halike := h.left_out hedits
      rw [if_neg Bool.false_ne_true]
      have hescape : t.state.escape.after k.typed = (t.key e k).state.escape := by
        rw [hstate, hpress]
      rw [hescape]
      refine ih _ _ hrest ?_ ?_
      · rw [hstate, hpress]
        exact halike
      · show t.shown ++ (e.press t.state k.typed).echo = _
        rw [hpress, List.append_nil, hshown]

/-! ## Bytes -/

/-- The keys before the end of a read are what its bytes show, be they characters or not. -/
theorem typed_keysBefore (body : Bytes) : (keysBefore body).map Key.typed = Utf8.lossy body := by
  suffices hchunks : (keysBefore body).map Key.chunk = Utf8.chunks body by
    rw [Utf8.lossy, ← hchunks, List.map_map]
    exact List.map_congr_left fun k _ => k.shown_chunk.symm
  unfold keysBefore Decoder.keys
  induction body using Utf8.chunks.induct with
  | case1 body c rest hfront ih =>
    have hfinds := Decoder.finds_run body
    rw [hfront, Decoder.Finds] at hfinds
    rw [Utf8.chunks_of_front_char hfront, hfinds, ← ih]
    rfl
  | case2 body part rest hfront ih =>
    have hfinds := Decoder.finds_run body
    rw [hfront, Decoder.Finds] at hfinds
    rw [Utf8.chunks_of_front_invalid hfront, hfinds, ← ih]
    rfl
  | case3 =>
    rw [Utf8.chunks_nil]
    rfl
  | case4 body hfront hne =>
    have hfinds := Decoder.finds_run body
    rw [hfront, Decoder.Finds] at hfinds
    obtain ⟨hkeys, hpending⟩ := hfinds
    rw [Utf8.chunks_of_front_short hfront, if_neg hne, hkeys]
    -- what the decoder holds back is all of the bytes, and they are some
    generalize (Decoder.idle.run body).2 = d at hpending
    cases d with
    | idle => exact absurd hpending.symm hne
    | within seen lead =>
      rw [show seen = body from hpending]
      rfl

theorem not_endsRead_keysBefore {body : Bytes} (hbody : ∀ b ∈ body, isTerminator b = false) :
    ∀ k ∈ keysBefore body, ¬ endsRead k.typed := by
  suffices h : ∀ {d : Decoder}, d.Proper → ∀ k ∈ (d.run body).1, ¬ endsRead k.typed by
    intro k hk
    rcases List.mem_append.mp hk with hk | hk
    · exact h (d := .idle) trivial k hk
    · exact not_endsRead_of_broken _ k hk
  induction body with
  | nil => exact fun _ k hk => absurd hk List.not_mem_nil
  | cons b body ih =>
    intro d hd k hk
    rw [Decoder.run_cons] at hk
    rcases List.mem_append.mp hk with hk | hk
    · exact not_endsRead_of_push hd (hbody b List.mem_cons_self) k hk
    · exact ih (fun x hx => hbody x (List.mem_cons_of_mem b hx)) (Decoder.push_proper hd b) k hk

/-- Enter gives the line and shows a line break, in whatever state the editor is. -/
theorem press_enter (e : Editor) (s : State) {c : Char} (hc : c = '\r' ∨ c = '\n') :
    endingOf s c = some (.line s.buffer) ∧ (e.press s c).echo = lineBreak := by
  have hskip : s.escape.skip? c = none := Escape.skip?_control (endsRead.control (.inr hc)) s.escape
  rw [press, hskip]
  rcases hc with rfl | rfl
  · exact ⟨rfl, rfl⟩
  · exact ⟨rfl, rfl⟩

/-- **A segment that Enter ends** gives the line that its keys leave and shows what they show, as far as the
    output accepts it. -/
theorem readFrom_enter (e : Editor) (o : Output) (consumed : Nat) {body : Bytes} {last : UInt8}
    (hbody : ∀ b ∈ body, isTerminator b = false)
    (hlast : last = Bytes.carriageReturn ∨ last = Bytes.lineFeed) (input : List InputEvent) :
    let t := ({} : Typing).keys e (keysBefore body)
    let r := e.readFrom o consumed (InputEvent.ofBytes (body ++ [last]) ++ input)
    Refuses o r ∨ r.ending = .ok (.line (edited e.registry (editingKeys (Utf8.lossy body)))) ∧
      r.output.text = o.text ++ Utf8.encode (t.shown ++ lineBreak) := by
  intro t r
  have hterminator : isTerminator last = true := by rcases hlast with rfl | rfl <;> rfl
  have henter : Char.ofNat last.toNat = '\r' ∨ Char.ofNat last.toNat = '\n' := by
    rcases hlast with rfl | rfl <;> decide
  obtain ⟨hline, hecho⟩ := press_enter e t.state henter
  have hbuffer := keys_buffer e {} (not_endsRead_keysBefore hbody)
  rw [typed_keysBefore] at hbuffer
  refine (readFrom_typing e o consumed hbody hterminator input).imp_right ?_
  rintro ⟨x, hx, hending, htext, -⟩
  cases hline.symm.trans hx
  refine ⟨hending.trans ?_, htext.trans ?_⟩
  · exact congrArg (fun line => Except.ok (ReadOutcome.line line)) hbuffer
  · exact congrArg (fun echo => o.text ++ Utf8.encode (t.shown ++ echo)) hecho

/-- Nothing is left out a second time. -/
theorem editingKeys_of_isEditing {keys : Text} (h : ∀ c ∈ keys, isEditing c = true) :
    editingKeys keys = keys := by
  rw [← remaining_outside]
  induction keys with
  | nil => exact remaining_nil .outside
  | cons c keys ih =>
    have hedits : edits .outside c = true := edits_iff.mpr ⟨rfl, h c List.mem_cons_self⟩
    rw [remaining_cons, if_pos hedits, after_of_edits hedits,
      ih fun x hx => h x (List.mem_cons_of_mem c hx)]

/-- Editing keys alone. Without limits, no output refuses what they show. -/
theorem alone_editing (e : Editor) {left : Text} (hleft : ∀ c ∈ left, isEditing c = true)
    {last : UInt8} (hlast : last = Bytes.carriageReturn ∨ last = Bytes.lineFeed) :
    let t := ({} : Typing).keys e (left.map .char)
    let r := e.alone (Utf8.encode left ++ [last])
    r.ending = .ok (.line (edited e.registry left)) ∧
      r.output.text = Utf8.encode (t.shown ++ lineBreak) := by
  have hends : ∀ c ∈ left, ¬ endsRead c := by
    intro c hc hends
    have hediting := hleft c hc
    rcases hends with rfl | rfl | rfl <;> exact absurd hediting (by decide)
  have hread := (readFrom_enter e (.unlimited []) 0 (not_isTerminator_of_not_endsRead hends) hlast
    []).resolve_left (not_refuses_unlimited [] _)
  rwa [keysBefore_encode, Utf8.lossy_encode, editingKeys_of_isEditing hleft, List.append_nil]
    at hread

/-! ## Summary -/

/-- **A line, stage by stage.** The bytes up to Enter are decoded; then the escape sequences among the keys
    are taken out, and the control characters that edit nothing; and what is left edits an empty line. So
    the line depends on the known names, but neither on the prompt nor on how often Tab was pressed in a
    row. If the rows of Tabs are whole, the read also shows what the keys that are left show alone. All this
    holds unless the output refuses something, which only an output with limits can do. -/
theorem line_in_stages (e : Editor) (o : Output) (consumed : Nat) {body : Bytes} {last : UInt8}
    (hbody : ∀ b ∈ body, isTerminator b = false)
    (hlast : last = Bytes.carriageReturn ∨ last = Bytes.lineFeed) (input : List InputEvent) :
    let keys := Utf8.lossy body
    let left := editingKeys keys
    let r := e.readFrom o consumed (InputEvent.ofBytes (body ++ [last]) ++ input)
    let r' := e.alone (Utf8.encode left ++ [last])
    Refuses o r ∨
      r.ending = .ok (.line (edited e.registry left)) ∧
        r'.ending = .ok (.line (edited e.registry left)) ∧
        (TabRowsWhole keys → r.output.text = o.text ++ r'.output.text) := by
  intro keys left r r'
  have hleft : ∀ c ∈ left, isEditing c = true := fun c hc => (List.mem_filter.mp hc).2
  obtain ⟨hending', htext'⟩ := alone_editing e hleft hlast
  refine (readFrom_enter e o consumed hbody hlast input).imp_right fun ⟨hending, htext⟩ => ?_
  refine ⟨hending, hending', fun hwhole => ?_⟩
  have halike : State.Alike {} {} ((keysBefore body).map Key.typed) :=
    ⟨rfl, rfl, .inl rfl, (typed_keysBefore body).symm ▸ hwhole, .inl rfl⟩
  have hshown := keys_shown e {} {} (not_endsRead_keysBefore hbody) halike rfl
  rw [typed_keysBefore] at hshown
  rw [htext, htext', hshown]
  rfl

/-- Tab is pressed twice behind an `e` and a sequence, and once more behind a bell among other keys. -/
theorem line_in_stages_echo :
    let e : Editor := ⟨Registry.ofNames ["exit".toList, "echo".toList], "$ ".toList⟩
    let body := Utf8.encode "e\x1bOP\t\tch\x07\t\x1b[A".toList
    let r := e.alone (body ++ [Bytes.carriageReturn])
    let r' := e.alone (Utf8.encode "e\t\tch\t".toList ++ [Bytes.carriageReturn])
    (∀ b ∈ body, isTerminator b = false) ∧ TabRowsWhole (Utf8.lossy body) ∧
      editingKeys (Utf8.lossy body) = "e\t\tch\t".toList ∧
      r.ending = .ok (.line "echo ".toList) ∧ r.output.text = r'.output.text := by
  intro e body r r'
  have hbody : ∀ b ∈ body, isTerminator b = false := by decide +kernel
  have hkeys : Utf8.lossy body = "e\x1bOP\t\tch\x07\t\x1b[A".toList := Utf8.lossy_encode _
  have hleft : editingKeys (Utf8.lossy body) = "e\t\tch\t".toList := by
    rw [hkeys]
    decide
  have hwhole : TabRowsWhole (Utf8.lossy body) := by
    rw [hkeys]
    decide +kernel
  have hedited : edited e.registry "e\t\tch\t".toList = "echo ".toList := by decide
  have hread := (line_in_stages e (.unlimited []) 0 hbody (.inl rfl) []).resolve_left
    (not_refuses_unlimited [] _)
  rw [hleft, hedited, List.append_nil] at hread
  obtain ⟨hending, -, htext⟩ := hread
  exact ⟨hbody, hwhole, hleft, hending, (htext hwhole).trans (List.nil_append _)⟩

end Editor

end CommandShell
