import CommandShell.Proofs.Editor.Reads
import CommandShell.Proofs.Keys.Buffer
import CommandShell.Proofs.Terminal

/-!
# `CommandShell.Proofs.Editor.Typing` — a read as the keys that were typed

A read is what its keys do one after the other: which line they leave, what they show, and what they
leave for the log. Bytes and decoder add nothing to that. An output may only cut it short: as long as it
accepts what the keys show, it has all of that, and when it refuses a part the read fails. An output without
limits never refuses.

## Contents
- **Typing.** `Typing`, what keys have led to, and `Typing.keys`, a fold over them.
- **Keys.** `Progress.Follows`, a read in progress and the keys that were typed; `Reacts` is what some keys
  make of it, `Follows.press` and `Follows.pressAll`.
- **Reads.** `readFrom_follows` for bytes without a terminator; `readFrom_typing` for a segment, and
  `alone_typing` for a segment that is all the input.
- **Lines.** `typing_line` and `alone_line`: a line without control characters is read as it is typed.
-/

namespace CommandShell

namespace Editor

open Bytes (isTerminator)

/-! ## Typing -/

/-- What the keys of a read have led to. -/
structure Typing where
  state : State := {}
  shown : Text := []
  notices : List Notice := []

/-- One more key. -/
def Typing.key (e : Editor) (t : Typing) (k : Key) : Typing where
  state := (e.press t.state k.typed).state
  shown := t.shown ++ (e.press t.state k.typed).echo
  notices := t.notices ++ notice t.state k

/-- More keys, one after the other. -/
def Typing.keys (e : Editor) (t : Typing) (ks : List Key) : Typing := ks.foldl (Typing.key e) t

theorem Typing.keys_cons (e : Editor) (t : Typing) (k : Key) (ks : List Key) :
    t.keys e (k :: ks) = (t.key e k).keys e ks := rfl

theorem Typing.keys_append (e : Editor) (t : Typing) (ks ks' : List Key) :
    t.keys e (ks ++ ks') = (t.keys e ks).keys e ks' := List.foldl_append

/-! ## Keys -/

variable {e : Editor}

/-- A read in progress has come to what was typed, and the output has all that was shown since it held
    `before`. -/
structure Progress.Follows (p : Progress) (before : Bytes) (t : Typing) : Prop where
  state : p.state = t.state
  text : p.output.text = before ++ Utf8.encode t.shown
  notices : p.notices = t.notices

/-- What some keys make of a read: they all act, and the read has come to `t`; or the output has refused
    what one of them shows. -/
inductive Progress.Reacts (p : Progress) (before : Bytes) (t : Typing)
    (ending : Option ReadOutcome) :
    Progress × Option (Except Failure ReadOutcome) → Prop where
  | accepted {q : Progress} (hfollows : q.Follows before t) (hdecoder : q.decoder = p.decoder)
      (haccepts : p.output.AcceptsAll → q.output.AcceptsAll) :
      Reacts p before t ending (q, ending.map .ok)
  | refused {q : Progress} {fault : Fault} (haccepts : ¬ p.output.AcceptsAll) :
      Reacts p before t ending (q, some (.error (.io fault)))

/-- What is shown is accepted as a whole, or the output has a limit. -/
theorem show_accepted (p : Progress) (echo : Bytes) :
    (∃ q, p.show echo = (q, none) ∧ q.state = p.state ∧ q.decoder = p.decoder ∧
      q.notices = p.notices ∧ q.output.text = p.output.text ++ echo ∧
      (p.output.AcceptsAll → q.output.AcceptsAll)) ∨
    ∃ q fault, p.show echo = (q, some fault) ∧ ¬ p.output.AcceptsAll := by
  unfold Progress.show
  have htext := @Output.text_write_of_accepted p.output echo
  rcases hwrite : p.output.write echo with ⟨written, _ | fault⟩
  · rw [hwrite] at htext
    have hflushed := Output.text_flush written
    dsimp only
    rcases hflush : written.flush with ⟨flushed, _ | fault⟩
    · rw [hflush] at hflushed
      refine .inl ⟨_, rfl, rfl, rfl, rfl, hflushed.trans (htext rfl), ?_⟩
      intro haccepts
      have hgrows := haccepts.grows_write echo
      rw [hwrite] at hgrows
      have hgrows' := hgrows.acceptsAll.grows_flush
      rw [hflush] at hgrows'
      exact hgrows'.acceptsAll
    · refine .inr ⟨_, fault, rfl, ?_⟩
      intro haccepts
      have hgrows := haccepts.grows_write echo
      rw [hwrite] at hgrows
      rw [hgrows.acceptsAll.flush_eq] at hflush
      cases hflush
  · refine .inr ⟨_, fault, rfl, ?_⟩
    intro haccepts
    rw [haccepts.write_eq] at hwrite
    cases hwrite

/-- **A key** does what it does to the line, as far as the output accepts it. -/
theorem Progress.Follows.press {p : Progress} {before : Bytes} {t : Typing} (h : p.Follows before t)
    (k : Key) :
    p.Reacts before (t.key e k) (endingOf t.state k.typed) (p.press e k) := by
  unfold Progress.press
  dsimp only
  rcases show_accepted
    { p with
      state := (e.press p.state k.typed).state, notices := p.notices ++ notice p.state k }
    (Utf8.encode (e.press p.state k.typed).echo) with
      ⟨q, hq, hstate, hdecoder, hnotices, htext, haccepts⟩ | ⟨q, fault, hq, haccepts⟩
  · rw [hq, press_ending, h.state]
    refine .accepted ⟨?_, ?_, ?_⟩ hdecoder haccepts
    · rw [hstate, h.state]
      rfl
    · dsimp only [Typing.key]
      rw [htext, Utf8.encode_append, ← List.append_assoc, ← h.text, h.state]
    · dsimp only [Typing.key]
      rw [hnotices, h.notices, h.state]
  · rw [hq]
    exact .refused haccepts

/-- Keys behind keys that do not end the read. -/
theorem Progress.Follows.pressAll_append {p : Progress} {before : Bytes} {t t' : Typing}
    {ending : Option ReadOutcome} (h : p.Follows before t) {ks ks' : List Key}
    (hks : ∀ k ∈ ks, ¬ endsRead k.typed)
    (hks' : ∀ q : Progress, q.Follows before (t.keys e ks) →
      q.Reacts before t' ending (q.pressAll e ks')) :
    p.Reacts before t' ending (p.pressAll e (ks ++ ks')) := by
  induction ks generalizing p t with
  | nil => exact hks' p h
  | cons k ks ih =>
    have hfirst := h.press (e := e) k
    rw [endingOf_of_not_endsRead (hks k List.mem_cons_self)] at hfirst
    rw [List.cons_append, Progress.pressAll]
    generalize p.press e k = reaction at hfirst
    cases hfirst with
    | refused haccepts => exact .refused haccepts
    | @accepted q hfollows hdecoder haccepts =>
      have hrest := ih hfollows (fun x hx => hks x (List.mem_cons_of_mem k hx)) hks'
      show p.Reacts before t' ending (q.pressAll e (ks ++ ks'))
      generalize q.pressAll e (ks ++ ks') = reaction at hrest
      cases hrest with
      | refused haccepts' => exact .refused fun hp => haccepts' (haccepts hp)
      | accepted hfollows' hdecoder' haccepts' =>
        exact .accepted hfollows' (hdecoder'.trans hdecoder) fun hp => haccepts' (haccepts hp)

/-- Keys that do not end the read act one after the other. -/
theorem Progress.Follows.pressAll {p : Progress} {before : Bytes} {t : Typing} (h : p.Follows before t)
    {ks : List Key} (hks : ∀ k ∈ ks, ¬ endsRead k.typed) :
    p.Reacts before (t.keys e ks) none (p.pressAll e ks) := by
  have hnone : p.Reacts before (t.keys e ks) none (p.pressAll e (ks ++ [])) :=
    h.pressAll_append hks fun q hq => .accepted hq rfl id
  rwa [List.append_nil] at hnone

/-- The last key may end the read. -/
theorem Progress.Follows.pressAll_concat {p : Progress} {before : Bytes} {t : Typing}
    (h : p.Follows before t) {ks : List Key} (hks : ∀ k ∈ ks, ¬ endsRead k.typed) (k : Key) :
    p.Reacts before ((t.keys e ks).key e k) (endingOf (t.keys e ks).state k.typed)
      (p.pressAll e (ks ++ [k])) := by
  refine h.pressAll_append hks fun q hq => ?_
  have hlast := hq.press (e := e) k
  rw [Progress.pressAll]
  generalize q.press e k = reaction at hlast
  cases hlast with
  | refused haccepts => exact .refused haccepts
  | accepted hfollows hdecoder haccepts =>
    generalize endingOf (t.keys e ks).state k.typed = ending
    cases ending <;> exact .accepted hfollows hdecoder haccepts

/-! ## Reads -/

/-- The read fails because an output with limits has refused something. -/
def Refuses (o : Output) (r : Read) : Prop := ¬ o.AcceptsAll ∧ ∃ fault, r.ending = .error (.io fault)

theorem not_refuses_unlimited (shown : Bytes) (r : Read) : ¬ Refuses (.unlimited shown) r :=
  fun h => h.1 (Output.acceptsAll_unlimited shown)

/-- **Bytes without a terminator** do what their keys do, as far as the output accepts it. -/
theorem readFrom_follows {p : Progress} {before : Bytes} {t : Typing} (h : p.Follows before t)
    (hp : p.decoder.Proper) {bs : Bytes} (hbs : ∀ b ∈ bs, isTerminator b = false)
    (input : List InputEvent) :
    Refuses p.output (Progress.readFrom e p (InputEvent.ofBytes bs ++ input)) ∨
      ∃ q : Progress, q.Follows before (t.keys e (p.decoder.run bs).1) ∧
        q.decoder = (p.decoder.run bs).2 ∧ (p.output.AcceptsAll → q.output.AcceptsAll) ∧
        Progress.readFrom e p (InputEvent.ofBytes bs ++ input) = Progress.readFrom e q input := by
  induction bs generalizing p t with
  | nil => exact .inr ⟨p, h, rfl, id, rfl⟩
  | cons b bs ih =>
    have hpushed : Progress.Follows
        { p with decoder := (p.decoder.push b).2, consumed := p.consumed + 1 } before t :=
      ⟨h.state, h.text, h.notices⟩
    have hkeys := not_endsRead_of_push hp (hbs b List.mem_cons_self)
    have htake := hpushed.pressAll (e := e) hkeys
    show Refuses _ (Progress.readFrom e p (.byte b :: (InputEvent.ofBytes bs ++ input))) ∨
      ∃ q : Progress, _ ∧ _ ∧ _ ∧
        Progress.readFrom e p (.byte b :: (InputEvent.ofBytes bs ++ input)) = _
    rw [Progress.readFrom, Progress.take]
    dsimp only
    generalize Progress.pressAll e _ _ = reaction at htake ⊢
    cases htake with
    | @refused q fault haccepts => exact .inl ⟨haccepts, fault, rfl⟩
    | @accepted q hfollows hdecoder haccepts =>
      have hproper : q.decoder.Proper := hdecoder ▸ Decoder.push_proper hp b
      rcases ih hfollows hproper fun x hx => hbs x (List.mem_cons_of_mem b hx) with
        ⟨hlimit, hfault⟩ | ⟨r, hfollows', hdecoder', haccepts', hread⟩
      · exact .inl ⟨fun hall => hlimit (haccepts hall), hfault⟩
      · rw [hdecoder] at hfollows' hdecoder'
        rw [Decoder.run_cons, Typing.keys_append]
        exact .inr ⟨r, hfollows', hdecoder', fun hall => haccepts' (haccepts hall), hread⟩

/-- The keys of a segment, but for the one that ends the read. -/
def keysBefore (body : Bytes) : List Key :=
  Decoder.keys body ++ (Decoder.idle.run body).2.broken

/-- **A segment** is read as its keys are typed, the last of them included, as far as the output accepts
    what they show. -/
theorem readFrom_typing (e : Editor) (o : Output) (consumed : Nat) {body : Bytes} {last : UInt8}
    (hbody : ∀ b ∈ body, isTerminator b = false) (hlast : isTerminator last = true)
    (input : List InputEvent) :
    let t := ({} : Typing).keys e (keysBefore body)
    let final := t.key e (.char (Char.ofNat last.toNat))
    let r := e.readFrom o consumed (InputEvent.ofBytes (body ++ [last]) ++ input)
    Refuses o r ∨ ∃ x, endingOf t.state (Char.ofNat last.toNat) = some x ∧ r.ending = .ok x ∧
      r.output.text = o.text ++ Utf8.encode final.shown ∧ r.notices = final.notices := by
  intro t final r
  have hstart : Progress.Follows { output := o, consumed := consumed } o.text {} :=
    ⟨rfl, (List.append_nil _).symm, rfl⟩
  have hread : r = Progress.readFrom e { output := o, consumed := consumed }
      (InputEvent.ofBytes body ++ (.byte last :: input)) := by
    show Progress.readFrom e _ (InputEvent.ofBytes (body ++ [last]) ++ input) = _
    rw [ofBytes_append, List.append_assoc]
    rfl
  rw [hread]
  rcases readFrom_follows hstart trivial hbody (.byte last :: input) with
    hrefuses | ⟨p, hfollows, hdecoder, haccepts, hrest⟩
  · exact .inl hrefuses
  have hproper : p.decoder.Proper := by
    rw [hdecoder]
    exact Decoder.run_proper (d := .idle) trivial body
  have hascii := ascii_of_isTerminator hlast
  obtain ⟨x, hx⟩ := ((endsRead_ascii_iff hascii).mpr hlast).exists_ending t.state
  have hlimit : ¬ p.output.AcceptsAll → ¬ o.AcceptsAll := fun hp ho => hp (haccepts ho)
  -- what is held back is broken off, and then comes the key that ends the read
  have hpushed : Progress.Follows { p with decoder := .idle, consumed := p.consumed + 1 } o.text
      (({} : Typing).keys e (Decoder.keys body)) := ⟨hfollows.state, hfollows.text, hfollows.notices⟩
  have hkeys := hpushed.pressAll_concat (e := e) (not_endsRead_of_broken p.decoder)
    (.char (Char.ofNat last.toNat))
  rw [hdecoder, ← Typing.keys_append] at hkeys
  replace hkeys : Progress.Reacts _ o.text final (endingOf t.state (Char.ofNat last.toNat)) _ := hkeys
  rw [hx] at hkeys
  rw [hrest, Progress.readFrom, Progress.take, Decoder.push_ascii hproper hascii, hdecoder]
  dsimp only
  generalize Progress.pressAll e _ _ = reaction at hkeys ⊢
  cases hkeys with
  | @refused q fault haccepts => exact .inl ⟨hlimit haccepts, fault, rfl⟩
  | @accepted q hfollows' _ _ => exact .inr ⟨x, hx, rfl, hfollows'.text, hfollows'.notices⟩

/-- **A segment** alone does what its keys do; the last of them ends the read. -/
theorem alone_typing (e : Editor) {body : Bytes} {last : UInt8}
    (hbody : ∀ b ∈ body, isTerminator b = false) (hlast : isTerminator last = true) :
    let t := ({} : Typing).keys e (keysBefore body)
    let final := t.key e (.char (Char.ofNat last.toNat))
    (∃ x, endingOf t.state (Char.ofNat last.toNat) = some x ∧
        (e.alone (body ++ [last])).ending = .ok x) ∧
      (e.alone (body ++ [last])).output = .unlimited (Utf8.encode final.shown) ∧
      (e.alone (body ++ [last])).notices = final.notices := by
  intro t final
  have hsegment : Bytes.IsSegment (body ++ [last]) := ⟨body, last, rfl, hbody, hlast⟩
  obtain ⟨-, houtput, -⟩ := alone_segment e hsegment
  have hread := (readFrom_typing e (.unlimited []) 0 hbody hlast []).resolve_left
    (not_refuses_unlimited [] _)
  rw [List.append_nil] at hread
  obtain ⟨x, hx, hending, htext, hnotices⟩ := hread
  refine ⟨⟨x, hx, hending⟩, ?_, hnotices⟩
  have hflushed : (e.alone (body ++ [last])).output.flushed = Utf8.encode final.shown := by
    rw [← Output.text_unlimited (e.alone (body ++ [last])).output.flushed, ← houtput]
    exact htext
  rw [houtput, hflushed]

/-! ## Lines -/

theorem isIgnored_plain {c : Char} (hc : Text.isControl c = false) : isIgnored c = false := by
  unfold isIgnored
  rw [hc]
  rfl

/-- Outside escape sequences a printable character goes to the end of the line. -/
theorem act_plain (e : Editor) (s : State) {c : Char} (hc : Text.isControl c = false) :
    e.act s c = { state := { s with buffer := s.buffer ++ [c] }, echo := [c] } := by
  have hne : ∀ d, Text.isControl d = true → c ≠ d := by
    rintro d hd rfl
    rw [hc] at hd
    cases hd
  have hignored : ¬ isIgnored c = true := Bool.eq_false_iff.mp (isIgnored_plain hc)
  -- the character is none of the keys that do something else
  rw [act, if_neg (hne _ (by decide)), if_neg (not_or.mpr ⟨hne _ (by decide), hne _ (by decide)⟩),
    if_neg (hne _ (by decide)), if_neg (hne _ (by decide)), if_neg (hne _ (by decide)),
    if_neg hignored]

/-- **A printable character** goes to the end of the line, and is shown. -/
theorem press_plain (e : Editor) (line : Text) {c : Char} (hc : Text.isControl c = false) :
    e.press { buffer := line } c = { state := { buffer := line ++ [c] }, echo := [c] } := by
  have hbefore : beforeKey { buffer := line } c = { buffer := line } := by
    unfold beforeKey
    split <;> rfl
  unfold press
  dsimp only [Escape.skip?]
  rw [hbefore, act_plain e _ hc]

theorem Typing.key_plain (e : Editor) (line shown : Text) (notices : List Notice) {c : Char}
    (hc : Text.isControl c = false) :
    (Typing.mk { buffer := line } shown notices).key e (.char c) =
      ⟨{ buffer := line ++ [c] }, shown ++ [c], notices⟩ := by
  have hnotice : notice { buffer := line } (.char c) = [] := by
    unfold notice ignores
    dsimp only
    rw [isIgnored_plain hc, Bool.and_false]
    rfl
  unfold Typing.key
  dsimp only [Key.typed]
  rw [press_plain e line hc, hnotice, List.append_nil]

/-- **Printable characters** are the line, and are shown. -/
theorem typing_line (e : Editor) {line : Text} (hline : line.IsPlain) :
    ({} : Typing).keys e (line.map .char) = ⟨{ buffer := line }, line, []⟩ := by
  suffices h : ∀ (typed rest : Text), rest.IsPlain →
      (Typing.mk { buffer := typed } typed []).keys e (rest.map .char) =
        ⟨{ buffer := typed ++ rest }, typed ++ rest, []⟩ from h [] line hline
  intro typed rest hrest
  induction rest generalizing typed with
  | nil => rw [List.append_nil]; rfl
  | cons c rest ih =>
    rw [List.map_cons, Typing.keys_cons, Typing.key_plain e _ _ _ (hrest c List.mem_cons_self),
      ih _ fun x hx => hrest x (List.mem_cons_of_mem c hx), List.append_assoc]
    rfl

/-- Characters that do not end a read have no terminator among their bytes. -/
theorem not_isTerminator_of_not_endsRead {text : Text} (htext : ∀ c ∈ text, ¬ endsRead c) :
    ∀ b ∈ Utf8.encode text, isTerminator b = false := by
  intro b hb
  obtain ⟨c, hc, hb⟩ := List.mem_flatMap.mp hb
  rw [← Bool.not_eq_true]
  intro hterminator
  -- the byte is the character, and a terminator is the byte of a character that ends a read
  have hascii := ascii_of_isTerminator hterminator
  have hends := (endsRead_ascii_iff hascii).mpr hterminator
  rw [Utf8.eq_of_mem_encodeChar hascii hb] at hends
  exact htext c hc hends

theorem not_isTerminator_of_encode {line : Text} (hline : line.IsPlain) :
    ∀ b ∈ Utf8.encode line, isTerminator b = false := by
  refine not_isTerminator_of_not_endsRead fun c hc hends => ?_
  have hplain := hline c hc
  rw [hends.control] at hplain
  cases hplain

/-- A line as it is typed: its text, and the Enter key. -/
def typedLine (line : Text) : Bytes := Utf8.encode line ++ [Bytes.carriageReturn]

theorem isSegment_typedLine {line : Text} (hline : line.IsPlain) :
    Bytes.IsSegment (typedLine line) :=
  ⟨Utf8.encode line, Bytes.carriageReturn, rfl, not_isTerminator_of_encode hline, rfl⟩

/-- The keys of a text are its characters. -/
theorem keysBefore_encode (text : Text) : keysBefore (Utf8.encode text) = text.map .char := by
  unfold keysBefore
  rw [Decoder.keys_encode, Decoder.run_encode]
  exact List.append_nil _

/-- **A line without control characters** is read as it is typed. -/
theorem alone_line (e : Editor) {line : Text} (hline : line.IsPlain) :
    (e.alone (typedLine line)).ending = .ok (.line line) ∧
      (e.alone (typedLine line)).output = .unlimited (Utf8.encode (line ++ lineBreak)) ∧
      (e.alone (typedLine line)).notices = [] := by
  have hreturn : isTerminator Bytes.carriageReturn = true := rfl
  obtain ⟨⟨x, hx, hending⟩, houtput, hnotices⟩ :=
    alone_typing e (not_isTerminator_of_encode hline) hreturn
  rw [keysBefore_encode, typing_line e hline] at hx houtput hnotices
  refine ⟨?_, houtput, hnotices⟩
  cases hx
  exact hending

end Editor

end CommandShell
