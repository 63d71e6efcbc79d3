import CommandShell.Proofs.Editor.Strokes
import CommandShell.Proofs.Output

/-!
# `CommandShell.Proofs.Editor.Limits` — an output with limits cuts a read

What a key shows is written and flushed before the next byte is taken. So an output that accepts only so many
bytes and only so many flushes cuts a read at a key: up to that key nothing differs from the read on an output
without limits, and that key is the last one, whatever key it is.

## Contents
- **Two outputs.** `Progress.within` puts the output of a read within limits; `press_within` and
  `press_within_refused` say what a key does there.
- **Two reads.** As long as everything fits, the read within the limits makes the same steps (`step_within`),
  is at the same moment (`reaches_within`) and ends in the same way (`ends_within`). `CutAt` is said of the
  moment at which this stops: `exists_cut` finds it, and `CutAt.ends` says how the read ends there.
- **Accounts.** `echoesOf` some strokes, one for each key. What was shown and what is still to come is the same
  at every moment (`reaches_account`), and at the end all of it is shown (`account_of_ends`).
- **Summary.** `limits_cut_read`.
-/

namespace CommandShell

/-- The texts that were shown. -/
def Echo.texts (echoes : List Echo) : List Bytes := echoes.map Echo.text

@[simp] theorem Echo.texts_nil : Echo.texts [] = [] := rfl

@[simp] theorem Echo.texts_append (echoes echoes' : List Echo) :
    Echo.texts (echoes ++ echoes') = Echo.texts echoes ++ Echo.texts echoes' := List.map_append

@[simp] theorem Echo.length_texts (echoes : List Echo) : (Echo.texts echoes).length = echoes.length :=
  List.length_map _

theorem Echo.texts_isPrefix {echoes echoes' : List Echo} (h : echoes <+: echoes') :
    Echo.texts echoes <+: Echo.texts echoes' := h.map Echo.text

namespace Editor

open Output (Fits Refusal)

variable {e : Editor} {shown : Bytes} {writes flushes : Option Nat} {consumed : Nat}
  {input : List InputEvent}

/-! ## Two outputs -/

/-- The read on an output with limits that has accepted all that was shown. -/
def Progress.within (shown : Bytes) (writes flushes : Option Nat) (p : Progress) : Progress :=
  { p with output := .spent shown writes flushes (Echo.texts p.echoes) }

/-- What fits is shown. -/
theorem show_within (shown : Bytes) {p : Progress} {t : Bytes}
    (h : Fits writes flushes (Echo.texts p.echoes ++ [t])) :
    (p.within shown writes flushes).show t =
      (Progress.within shown writes flushes { p with echoes := p.echoes ++ [⟨p.consumed, t⟩] },
        none) := by
  unfold Progress.show Progress.within
  dsimp only
  rw [Output.write_spent h.writes]
  dsimp only
  rw [Output.flush_pending h.flushes, Echo.texts_append]
  rfl

/-- What does not fit is refused, and is not among the echoes. -/
theorem show_within_refused (shown : Bytes) {p : Progress} {t : Bytes}
    (h : Fits writes flushes (Echo.texts p.echoes))
    (h' : ¬ Fits writes flushes (Echo.texts p.echoes ++ [t])) :
    ∃ o fault, (p.within shown writes flushes).show t = ({ p with output := o }, some fault) ∧
      Refusal shown writes flushes (Echo.texts p.echoes) t o fault := by
  unfold Progress.show Progress.within
  dsimp only
  rcases Output.refusal_of_not_fits shown h h' with
    ⟨o, fault, hwrite, hrefusal⟩ | ⟨written, o, fault, hwrite, hflush, hrefusal⟩
  · rw [hwrite]
    exact ⟨o, fault, rfl, hrefusal⟩
  · rw [hwrite]
    dsimp only
    rw [hflush]
    exact ⟨o, fault, rfl, hrefusal⟩

/-- What is shown for a key. -/
def echoOf (e : Editor) (p : Progress) (key : Key) : Echo :=
  ⟨p.consumed, Utf8.encode (e.press p.state key.typed).echo⟩

/-- What a key makes of a read, but for the output. -/
def Progress.handle (e : Editor) (p : Progress) (key : Key) : Progress :=
  { p with
    state := (e.press p.state key.typed).state
    notices := p.notices ++ notice p.state key
    echoes := p.echoes ++ [e.echoOf p key] }

/-- **A key whose echo fits** does the same on every output. -/
theorem press_within {p : Progress} {key : Key}
    (h : Fits writes flushes (Echo.texts (p.echoes ++ [e.echoOf p key]))) :
    (p.within shown writes flushes).press e key =
      ((p.handle e key).within shown writes flushes, (endingOf p.state key.typed).map .ok) := by
  rw [Echo.texts_append] at h
  have hshow := show_within shown
    (p := { p with
      state := (e.press p.state key.typed).state, notices := p.notices ++ notice p.state key }) h
  unfold Progress.within at hshow ⊢
  unfold Progress.press
  dsimp only [echoOf, Echo.texts, List.map] at hshow ⊢
  rw [hshow, press_ending]
  rfl

/-- **A key whose echo does not fit** ends the read, even if it would have ended it in another way. -/
theorem press_within_refused (shown : Bytes) {p : Progress} {key : Key}
    (h : Fits writes flushes (Echo.texts p.echoes))
    (h' : ¬ Fits writes flushes (Echo.texts (p.echoes ++ [e.echoOf p key]))) :
    ∃ q fault, (p.within shown writes flushes).press e key = (q, some (.error (.io fault))) ∧
      q.echoes = p.echoes ∧ q.consumed = p.consumed ∧
      Refusal shown writes flushes (Echo.texts p.echoes) (e.echoOf p key).text q.output fault := by
  rw [Echo.texts_append] at h'
  obtain ⟨o, fault, hshow, hrefusal⟩ := show_within_refused shown
    (p := { p with
      state := (e.press p.state key.typed).state, notices := p.notices ++ notice p.state key }) h h'
  refine ⟨{ p with
    state := (e.press p.state key.typed).state, notices := p.notices ++ notice p.state key
    output := o }, fault, ?_, rfl, rfl, hrefusal⟩
  unfold Progress.within at hshow ⊢
  unfold Progress.press
  dsimp only [echoOf] at hshow ⊢
  rw [hshow]

/-- Without limits every echo fits. -/
theorem handled_of_press {p q : Progress} {key : Key}
    {ending : Option (Except Failure ReadOutcome)}
    (h : (p.within shown none none).press e key = (q, ending)) :
    q = (p.handle e key).within shown none none ∧
      (endingOf p.state key.typed).map .ok = ending := by
  rw [press_within (Output.fits_none _)] at h
  obtain ⟨rfl, hending⟩ := Prod.mk.inj h
  exact ⟨rfl, hending⟩

/-! ## Two reads -/

namespace Moment

variable {m m' : Moment} {echo : Echo} {echoes : List Echo} {u : Read}

/-- The moment of a read on an output with limits that has accepted all that was shown. -/
def within (shown : Bytes) (writes flushes : Option Nat) (m : Moment) : Moment :=
  { m with progress := m.progress.within shown writes flushes }

/-- What the echoes may be after one step: the same, or one more for the next key. -/
def Shows (e : Editor) (m : Moment) (echoes : List Echo) : Prop :=
  echoes = m.progress.echoes ∨
    ∃ key keys, m.keys = key :: keys ∧ echoes = m.progress.echoes ++ [e.echoOf m.progress key]

theorem Shows.isPrefix (h : m.Shows e echoes) : m.progress.echoes <+: echoes := by
  rcases h with rfl | ⟨key, keys, -, rfl⟩
  · exact List.prefix_rfl
  · exact List.prefix_append _ _

/-- The start of a read has shown nothing. -/
theorem start_within (shown : Bytes) (writes flushes : Option Nat) (consumed : Nat)
    (input : List InputEvent) (output : Output) :
    (start output consumed input).within shown writes flushes =
      start (.limited shown writes flushes) consumed input := by
  unfold within Progress.within start
  dsimp only
  rw [Echo.texts_nil, Output.spent_nil]

/-- **One step** of the read without limits shows at most what the next key shows, and it is accepted. -/
theorem shows_of_step (h : Step e (m.within shown none none) m') :
    m' = m'.within shown none none ∧ m.Shows e m'.progress.echoes := by
  obtain ⟨p, keys, input⟩ := m
  cases h with
  | @key _ q key keys _ hpress =>
    obtain ⟨rfl, -⟩ := handled_of_press hpress
    exact ⟨rfl, .inr ⟨key, keys, rfl, rfl⟩⟩
  | byte => exact ⟨rfl, .inl rfl⟩
  | retry _ => exact ⟨rfl, .inl rfl⟩

/-- If what it has shown then fits, the read within the limits makes the same step. -/
theorem step_within (h : Step e (m.within shown none none) m')
    (hfits : Fits writes flushes (Echo.texts m'.progress.echoes)) :
    Step e (m.within shown writes flushes) (m'.within shown writes flushes) := by
  obtain ⟨p, keys, input⟩ := m
  cases h with
  | key hpress =>
    obtain ⟨rfl, hending⟩ := handled_of_press hpress
    apply Step.key
    rw [press_within hfits]
    exact congrArg _ hending
  | byte => exact .byte
  | retry hf => exact .retry hf

/-- **The end** of the read without limits: the last key may show something, and it is accepted. -/
theorem shows_of_ends (h : Ends e (m.within shown none none) u) :
    u.output = .spent shown none none (Echo.texts u.echoes) ∧ m.Shows e u.echoes := by
  obtain ⟨p, keys, input⟩ := m
  cases h with
  | @key _ q key keys _ ending hpress =>
    obtain ⟨rfl, -⟩ := handled_of_press hpress
    exact ⟨rfl, .inr ⟨key, keys, rfl, rfl⟩⟩
  | closed => exact ⟨rfl, .inl rfl⟩
  | fault => exact ⟨rfl, .inl rfl⟩

/-- If what it has shown then fits, the read within the limits ends in the same way. -/
theorem ends_within (h : Ends e (m.within shown none none) u)
    (hfits : Fits writes flushes (Echo.texts u.echoes)) :
    Ends e (m.within shown writes flushes)
      { u with output := .spent shown writes flushes (Echo.texts u.echoes) } := by
  obtain ⟨p, keys, input⟩ := m
  cases h with
  | @key _ q key keys _ ending hpress =>
    obtain ⟨rfl, hending⟩ := handled_of_press hpress
    apply Ends.key (q := (p.handle e key).within shown writes flushes)
    rw [press_within hfits]
    exact congrArg _ hending
  | closed => exact .closed
  | fault hf => exact .fault hf

/-- The read without limits has accepted all that it has shown. -/
theorem within_of_reaches (h : Reaches e (start (.unlimited shown) consumed input) m) :
    m = m.within shown none none := by
  induction h with
  | refl => exact (start_within shown none none consumed input _).symm
  | tail _ hstep ih =>
    rw [ih] at hstep
    exact (shows_of_step hstep).1

/-- **As long as everything fits**, the read within the limits is at the same moment as the read without
    them. -/
theorem reaches_within (h : Reaches e (start (.unlimited shown) consumed input) m)
    (hfits : Fits writes flushes (Echo.texts m.progress.echoes)) :
    Reaches e (start (.limited shown writes flushes) consumed input)
      (m.within shown writes flushes) := by
  induction h with
  | refl =>
    rw [start_within]
    exact .refl
  | tail hreaches hstep ih =>
    rw [within_of_reaches hreaches] at hstep
    have hshows := (shows_of_step hstep).2
    exact .tail (ih (hfits.of_isPrefix (Echo.texts_isPrefix hshows.isPrefix)))
      (step_within hstep hfits)

/-- The moment at which limits cut a read: what the next key shows is the first echo that does not fit. -/
structure CutAt (e : Editor) (writes flushes : Option Nat) (m : Moment) (echo : Echo) : Prop where
  next : ∃ key keys, m.keys = key :: keys ∧ echo = e.echoOf m.progress key
  before : Fits writes flushes (Echo.texts m.progress.echoes)
  after : ¬ Fits writes flushes (Echo.texts (m.progress.echoes ++ [echo]))

/-- The read ends there within the limits. -/
theorem CutAt.ends (shown : Bytes) (h : CutAt e writes flushes m echo) :
    ∃ l fault, Ends e (m.within shown writes flushes) l ∧ l.ending = .error (.io fault) ∧
      l.echoes = m.progress.echoes ∧ l.consumed = m.progress.consumed ∧ l.rest = m.input ∧
      Refusal shown writes flushes (Echo.texts m.progress.echoes) echo.text l.output fault := by
  obtain ⟨⟨key, keys, hkeys, rfl⟩, hbefore, hafter⟩ := h
  obtain ⟨p, _, input⟩ := m
  obtain rfl := hkeys
  obtain ⟨q, fault, hpress, hechoes, hconsumed, hrefusal⟩ :=
    press_within_refused shown hbefore hafter
  exact ⟨_, fault, .key hpress, rfl, hechoes, hconsumed, rfl, hrefusal⟩

/-- What one step shows fits, or the limits cut the read there. -/
theorem Shows.fits_or_cutAt (h : m.Shows e echoes)
    (hbefore : Fits writes flushes (Echo.texts m.progress.echoes)) :
    Fits writes flushes (Echo.texts echoes) ∨
      ∃ echo, CutAt e writes flushes m echo ∧ m.progress.echoes ++ [echo] = echoes := by
  by_cases hafter : Fits writes flushes (Echo.texts echoes)
  · exact .inl hafter
  · rcases h with rfl | ⟨key, keys, hkeys, rfl⟩
    · exact absurd hbefore hafter
    · exact .inr ⟨_, ⟨⟨key, keys, hkeys, rfl⟩, hbefore, hafter⟩, rfl⟩

/-- **Every moment** of the read without limits: everything that was shown fits, or the limits have cut the
    read at an earlier moment. -/
theorem fits_or_cut (writes flushes : Option Nat)
    (h : Reaches e (start (.unlimited shown) consumed input) m) :
    Fits writes flushes (Echo.texts m.progress.echoes) ∨
      ∃ c echo, Reaches e (start (.unlimited shown) consumed input) c ∧
        CutAt e writes flushes c echo ∧ c.progress.echoes ++ [echo] <+: m.progress.echoes := by
  induction h with
  | refl => exact .inl Output.fits_nil
  | @tail m m' hreaches hstep ih =>
    rw [within_of_reaches hreaches] at hstep
    have hshows := (shows_of_step hstep).2
    rcases ih with hbefore | ⟨c, echo, hc, hcut, hpre⟩
    · rcases hshows.fits_or_cutAt hbefore with hfits | ⟨echo, hcut, heq⟩
      · exact .inl hfits
      · exact .inr ⟨m, echo, hreaches, hcut, heq ▸ List.prefix_rfl⟩
    · exact .inr ⟨c, echo, hc, hcut, hpre.trans hshows.isPrefix⟩

/-- **The whole read**: if not everything fits that the read without limits shows, there is a moment at which
    the limits cut it, perhaps its last one. -/
theorem exists_cut (h : Reaches e (start (.unlimited shown) consumed input) m) (hends : Ends e m u)
    (hfits : ¬ Fits writes flushes (Echo.texts u.echoes)) :
    ∃ c echo, Reaches e (start (.unlimited shown) consumed input) c ∧
      CutAt e writes flushes c echo ∧ c.progress.echoes ++ [echo] <+: u.echoes := by
  rw [within_of_reaches h] at hends
  have hshows := (shows_of_ends hends).2
  rcases fits_or_cut writes flushes h with hbefore | ⟨c, echo, hc, hcut, hpre⟩
  · obtain ⟨echo, hcut, heq⟩ := (hshows.fits_or_cutAt hbefore).resolve_left hfits
    exact ⟨m, echo, h, hcut, heq ▸ List.prefix_rfl⟩
  · exact ⟨c, echo, hc, hcut, hpre.trans hshows.isPrefix⟩

end Moment

/-! ## Accounts -/

/-- What is shown for some strokes, each with the bytes that were taken when it was decoded. The first key
    that ends the read is the last one. -/
def echoesOf (e : Editor) : State → List Stroke → List Echo
  | _, [] => []
  | s, x :: strokes =>
    ⟨x.consumed, Utf8.encode (e.press s x.key.typed).echo⟩ ::
      if endingOf s x.key.typed = none then echoesOf e (e.press s x.key.typed).state strokes else []

namespace Moment

/-- What is shown and what is still to come. -/
def account (e : Editor) (m : Moment) : List Echo :=
  m.progress.echoes ++ e.echoesOf m.progress.state m.upcoming

/-- **One step** changes nothing about the account: it shows just what the next key shows. -/
theorem account_of_step {m m' : Moment} (h : Step e (m.within shown none none) m') :
    m'.account e = m.account e := by
  obtain ⟨p, keys, input⟩ := m
  cases h with
  | @key _ q key keys _ hpress =>
    have hupcoming : upcoming ⟨p, key :: keys, input⟩ =
        ⟨p.consumed, key⟩ :: upcoming ⟨q, keys, input⟩ := by
      show upcoming ⟨p.within shown none none, key :: keys, input⟩ = _
      exact upcoming_key hpress
    obtain ⟨rfl, hending⟩ := handled_of_press hpress
    have hnone := Option.map_eq_none_iff.mp hending
    unfold account
    rw [hupcoming, echoesOf]
    dsimp only
    rw [if_pos hnone]
    exact List.append_assoc _ _ _
  | byte => rfl
  | retry hf =>
    unfold account
    rw [upcoming_retry hf]
    rfl

/-- **At the end** everything is shown that the input brings to show. -/
theorem account_of_ends {m : Moment} {u : Read} (h : Ends e (m.within shown none none) u) :
    u.echoes = m.account e := by
  obtain ⟨p, keys, input⟩ := m
  cases h with
  | @key _ q key keys _ ending hpress =>
    obtain ⟨rfl, hending⟩ := handled_of_press hpress
    have hsome : ¬ endingOf p.state key.typed = none := by
      intro hnone
      rw [hnone] at hending
      cases hending
    show p.echoes ++ [e.echoOf p key] = p.echoes ++ (_ :: if _ then _ else [])
    rw [if_neg hsome]
    rfl
  | closed => exact (List.append_nil _).symm
  | fault hf =>
    show p.echoes = p.echoes ++ e.echoesOf p.state (if _ then _ else [])
    rw [if_neg hf]
    exact (List.append_nil _).symm

/-- **Every moment** has the account of the input. -/
theorem reaches_account {m : Moment} (h : Reaches e (start (.unlimited shown) consumed input) m) :
    m.account e = e.echoesOf {} (strokes .idle consumed input) := by
  induction h with
  | refl => rfl
  | tail hreaches hstep ih =>
    rw [within_of_reaches hreaches] at hstep
    rw [account_of_step hstep, ih]

end Moment

/-! ## Summary -/

/-- **An output with limits cuts a read cleanly.** A read on an output without limits shows one text for each
    key that it handles, in order, and flushes it when no byte was taken since the key was decoded; with the
    key that ends the read it stops. Each of these texts may as well be written in parts, on any output.

    On an output with limits the read is the same if all these texts fit. If they do not, it fails at the key
    that shows the first text which does not fit, be it the key that ends the read. It has taken the bytes and
    has left the input that the other read had when it came to this key. The texts of the earlier keys are
    flushed, one flush for each of them. Of all that the other read shows, the output has accepted as many
    bytes as it had room for; or everything up to this key, if it was the flush that was refused. -/
theorem limits_cut_read (e : Editor) (shown : Bytes) (writes flushes : Option Nat) (consumed : Nat)
    (input : List InputEvent) :
    let u := e.readFrom (.unlimited shown) consumed input
    let l := e.readFrom (.limited shown writes flushes) consumed input
    let texts := Echo.texts u.echoes
    (∀ (o : Output) (parts : List Bytes), o.writeParts parts = o.write parts.flatten) ∧
      u.output = .unlimited (shown ++ texts.flatten) ∧
      u.echoes = e.echoesOf {} (strokes .idle consumed input) ∧
      (Fits writes flushes texts → l = { u with output := .spent shown writes flushes texts }) ∧
      (¬ Fits writes flushes texts →
        ∃ m key keys later, Moment.Reaches e (.start (.unlimited shown) consumed input) m ∧
          let earlier := m.progress.echoes
          let echo := e.echoOf m.progress key
          m.keys = key :: keys ∧ u.echoes = earlier ++ echo :: later ∧
            Fits writes flushes (Echo.texts earlier) ∧
            ¬ Fits writes flushes (Echo.texts (earlier ++ [echo])) ∧
            l.consumed = m.progress.consumed ∧ l.rest = m.input ∧ l.echoes = earlier ∧
            l.output.flushed = shown ++ (Echo.texts earlier).flatten ∧
            l.output.flushRoom = flushes.map (· - earlier.length) ∧
            ((∃ n, writes = some n ∧ n < (Echo.texts (earlier ++ [echo])).flatten.length ∧
                l.ending = .error (.io Output.writeRefused) ∧
                l.output.text = shown ++ texts.flatten.take n) ∨
              (∀ n ∈ writes, (Echo.texts (earlier ++ [echo])).flatten.length ≤ n) ∧
                flushes = some earlier.length ∧
                l.ending = .error (.io Output.flushRefused) ∧
                l.output.text = shown ++ (Echo.texts (earlier ++ [echo])).flatten)) := by
  intro u l texts
  obtain ⟨m, hreaches, hends⟩ := Moment.reaches_end e (.unlimited shown) consumed input
  have hends' : Moment.Ends e (m.within shown none none) u := by
    rw [← Moment.within_of_reaches hreaches]
    exact hends
  obtain ⟨houtput, hshows⟩ := Moment.shows_of_ends hends'
  refine ⟨Output.writeParts_eq, houtput, ?_, ?_, ?_⟩
  · rw [← Moment.reaches_account hreaches]
    exact Moment.account_of_ends hends'
  · intro hfits
    have hbefore := hfits.of_isPrefix (Echo.texts_isPrefix hshows.isPrefix)
    exact Moment.readFrom_of_ends (Moment.reaches_within hreaches hbefore)
      (Moment.ends_within hends' hfits)
  · intro hfits
    obtain ⟨c, echo, hc, hcut, later, hlater⟩ := Moment.exists_cut hreaches hends hfits
    obtain ⟨r, fault, hends, hending, hechoes, hconsumed, hrest, hrefusal⟩ := hcut.ends shown
    have hl : l = r := Moment.readFrom_of_ends (Moment.reaches_within hc hcut.before) hends
    obtain ⟨key, keys, hkeys, rfl⟩ := hcut.next
    obtain ⟨hflushed, hroom⟩ := hrefusal.kept
    have hall : texts = Echo.texts c.progress.echoes ++
        (e.echoOf c.progress key).text :: Echo.texts later := by
      show Echo.texts u.echoes = _
      rw [← hlater, List.append_assoc, Echo.texts_append]
      rfl
    refine ⟨c, key, keys, later, hc, hkeys, ?_, hcut.before, hcut.after, ?_⟩
    · rw [← hlater, List.append_assoc]
      rfl
    rw [hl, hall, Echo.texts_append]
    rw [Echo.length_texts] at hroom
    refine ⟨hconsumed, hrest, hechoes, hflushed, hroom, ?_⟩
    rcases hrefusal.text hcut.before (Echo.texts later) with
      ⟨n, hwrites, hlt, rfl, htext⟩ | ⟨hwrites, hflushes, rfl, htext⟩
    · exact .inl ⟨n, hwrites, hlt, hending, htext⟩
    · rw [Echo.length_texts] at hflushes
      exact .inr ⟨hwrites, hflushes, hending, htext⟩

/-- Enter gives no line if only a half of its line break fits, and Ctrl+C does not interrupt if its flush is
    refused. -/
example :
    let e : Editor := ⟨.ofNames [], "$ ".toList⟩
    let enter := e.readFrom (.limited [] (some 2) none) 0 (InputEvent.ofBytes [0x61, 0x0D, 0x62])
    let interrupt := e.readFrom (.limited [] none (some 1)) 0 (InputEvent.ofBytes [0x61, 0x03])
    enter.ending = .error (.io Output.writeRefused) ∧ enter.output.text = [0x61, 0x0D] ∧
      enter.consumed = 2 ∧ interrupt.ending = .error (.io Output.flushRefused) ∧
      interrupt.output.text = [0x61] ∧ interrupt.consumed = 2 := by
  exact ⟨rfl, rfl, rfl, rfl, rfl, rfl⟩

end Editor

end CommandShell
