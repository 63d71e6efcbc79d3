import CommandShell.Proofs.Line.Pieces
import CommandShell.Proofs.Line.Quoting

/-!
# `CommandShell.Proofs.Line.Rendering` — commands written down

A command can be written down as words, and the words as a line, so that it is read back as it was. That
holds of every command that can be read at all. The words alone decide what is read: quoting keeps the
characters of a word together, and does not keep the word from being an operator.

## Contents
- **Operators.** `Line.OnlyLastOperator`, said of words that are no redirections: `pieces_of_onlyLast`,
  and `onlyLast_words`, its converse for the plain words of any list.
- **Readable commands.** `Command.Readable` and `Command.HasTargets`; `readable_ofWords` says that what is
  read has these properties.
- **Writing.** `Command.render` writes a command as words; `ofWords_render` reads them back.
- **Quotes.** `Quoting.Quoted`, a word in single or double quotes, which is one way to write it.
- **Summary.** `written_and_read_back` for commands, `quoted_line_reads` for lines of quoted words.
-/

namespace CommandShell

/-! ## Operators -/

namespace Line

/-- No word is an operator, but for the last one. -/
def OnlyLastOperator (ws : List Text) : Prop :=
  ∀ w ∈ ws.dropLast, ∀ stream append, ¬ Operator w stream append

theorem onlyLastOperator_nil : OnlyLastOperator [] := fun _ hw => absurd hw List.not_mem_nil

theorem onlyLastOperator_singleton (w : Text) : OnlyLastOperator [w] :=
  fun _ hw => absurd hw List.not_mem_nil

theorem onlyLastOperator_cons_cons {w t : Text} {rest : List Text} :
    OnlyLastOperator (w :: t :: rest) ↔
      (∀ stream append, ¬ Operator w stream append) ∧ OnlyLastOperator (t :: rest) := by
  simp only [OnlyLastOperator, List.dropLast_cons_cons, List.forall_mem_cons]

theorem onlyLastOperator_iff {ws : List Text} :
    OnlyLastOperator ws ↔ ∀ w ∈ ws.dropLast, Redirection.operator? w = none :=
  forall₂_congr fun _ _ => operator?_eq_none_iff.symm

instance (ws : List Text) : Decidable (OnlyLastOperator ws) :=
  decidable_of_iff _ onlyLastOperator_iff.symm

/-- What is left of such words at their end is such words again. -/
theorem OnlyLastOperator.of_suffix {ws vs : List Text} (h : OnlyLastOperator ws) (hvs : vs <:+ ws) :
    OnlyLastOperator vs := by
  obtain ⟨front, rfl⟩ := hvs
  intro w hw
  have hne : vs ≠ [] := by
    rintro rfl
    exact absurd hw List.not_mem_nil
  refine h w ?_
  rw [List.dropLast_append_of_ne_nil hne]
  exact List.mem_append_right front hw

/-- **Without operators before the last word**, all words are plain. -/
theorem pieces_of_onlyLast {ws : List Text} (h : OnlyLastOperator ws) :
    pieces ws = ws.map .word := by
  induction ws with
  | nil => rfl
  | cons w rest ih =>
    cases rest with
    | nil => rfl
    | cons t rest =>
      obtain ⟨hplain, hrest⟩ := onlyLastOperator_cons_cons.mp h
      rw [pieces_of_word hplain, ih hrest]
      rfl

/-- **Among the plain words** of any words, only the last can be an operator. -/
theorem onlyLast_words {ws : List Text} {ps : List Piece} (h : Splits ws ps) :
    OnlyLastOperator (ps.filterMap Piece.word?) := by
  induction h with
  | nil => exact onlyLastOperator_nil
  | redirection _ _ ih => exact ih
  | @word w rest ps hplain _ ih =>
    have hcons : (Piece.word w :: ps).filterMap Piece.word? = w :: ps.filterMap Piece.word? := rfl
    rw [hcons]
    cases hwords : ps.filterMap Piece.word? with
    | nil => exact onlyLastOperator_singleton w
    | cons t more =>
      rw [hwords] at ih
      exact onlyLastOperator_cons_cons.mpr ⟨hplain, ih⟩
  | lastOperator _ => exact onlyLastOperator_singleton _

/-- Where nothing is a redirection, the plain words are all the words. -/
theorem words_of_no_redirection {ws : List Text} {ps : List Piece} (h : Splits ws ps)
    (hnone : ps.filterMap Piece.redirection? = []) : ps.filterMap Piece.word? = ws := by
  induction h with
  | nil => rfl
  | redirection => cases hnone
  | @word w rest ps _ _ ih => exact congrArg (w :: ·) (ih hnone)
  | lastOperator => rfl

/-- The target of a redirection is a word. -/
theorem exists_target_word {ws : List Text} {ps : List Piece} (h : Splits ws ps) {r : Redirection}
    (hr : r ∈ ps.filterMap Piece.redirection?) : ∃ t : Text, r.target = Utf8.encode t := by
  induction h with
  | nil => exact absurd hr List.not_mem_nil
  | @redirection operator target rest ps stream append _ _ ih =>
    rcases List.mem_cons.mp hr with rfl | hr
    · exact ⟨target, rfl⟩
    · exact ih hr
  | word _ _ ih => exact ih hr
  | lastOperator => exact absurd hr List.not_mem_nil

/-- Either mode of either stream has an operator. -/
theorem exists_operator (stream : Stream) (append : Bool) : ∃ w, Operator w stream append := by
  cases stream <;> cases append
  · exact ⟨_, .out⟩
  · exact ⟨_, .appendOut⟩
  · exact ⟨_, .err⟩
  · exact ⟨_, .appendErr⟩

/-- The words of a redirection, if there is a target. -/
def redirected (operator : Text) : Option Text → List Text
  | none => []
  | some target => [operator, target]

theorem pieces_redirected {operator : Text} {stream : Stream} {append : Bool}
    (h : Operator operator stream append) (target : Option Text) (rest : List Text) :
    pieces (redirected operator target ++ rest) =
      (target.map fun t => Piece.redirection ⟨stream, append, Utf8.encode t⟩).toList ++
        pieces rest := by
  cases target with
  | none => rfl
  | some t => exact pieces_of_operator h t rest

end Line

/-! ## Readable commands -/

namespace Command

/-- What a command is like that is read from words. -/
structure Readable (c : Command) : Prop where
  args_eq_nil : c.name = [] → c.args = []
  onlyLast : Line.OnlyLastOperator (c.name :: c.args)
  exists_target : c.append = true → c.stdout.isSome ∨ c.stderr.isSome

/-- The targets of a command are these texts. -/
structure HasTargets (c : Command) (out err : Option Text) : Prop where
  stdout : c.stdout = out.map Utf8.encode
  stderr : c.stderr = err.map Utf8.encode

/-- The last of some redirections leaves a target behind. -/
theorem exists_lastTarget {rs : List Redirection} (h : rs ≠ []) :
    (lastTarget? rs .out).isSome ∨ (lastTarget? rs .err).isSome := by
  have hlast := List.getLast_mem h
  generalize rs.getLast h = r at hlast
  have hsome : (lastTarget? rs r.stream).isSome := by
    have hmem : r ∈ rs.filter fun r' => r'.stream = r.stream :=
      List.mem_filter.mpr ⟨hlast, decide_eq_true rfl⟩
    rw [lastTarget?, Option.isSome_map, Option.isSome_iff_ne_none, Ne, List.getLast?_eq_none_iff]
    exact List.ne_nil_of_mem hmem
  cases hstream : r.stream with
  | out =>
    rw [hstream] at hsome
    exact .inl hsome
  | err =>
    rw [hstream] at hsome
    exact .inr hsome

theorem exists_text_of_lastTarget {rs : List Redirection}
    (h : ∀ r ∈ rs, ∃ t : Text, r.target = Utf8.encode t) (stream : Stream) :
    ∃ target : Option Text, lastTarget? rs stream = target.map Utf8.encode := by
  cases hlast : (rs.filter fun r => r.stream = stream).getLast? with
  | none =>
    refine ⟨none, ?_⟩
    simp only [lastTarget?, hlast, Option.map_none]
  | some r =>
    have hmem := List.mem_of_getLast? hlast
    obtain ⟨t, ht⟩ := h r (List.mem_filter.mp hmem).1
    refine ⟨some t, ?_⟩
    simp only [lastTarget?, hlast, Option.map_some, ht]

/-- **A command that is read from words** is readable, and its targets are text. -/
theorem readable_ofWords (ws : List Text) :
    (ofWords ws).Readable ∧ ∃ out err, (ofWords ws).HasTargets out err := by
  have hsplits := Line.splits_pieces ws
  have hwords := Line.onlyLast_words hsplits
  have htext : ∀ r ∈ (Line.pieces ws).filterMap Piece.redirection?,
      ∃ t : Text, r.target = Utf8.encode t := fun r hr => Line.exists_target_word hsplits hr
  rw [ofWords, ofPieces_eq_ofParts]
  generalize (Line.pieces ws).filterMap Piece.word? = words at hwords
  generalize (Line.pieces ws).filterMap Piece.redirection? = rs at htext
  refine ⟨⟨?_, ?_, ?_⟩, ?_⟩
  · intro hname
    rcases all_empty_or_name words with ⟨-, hargs⟩ | ⟨name, args, hne, hfind, -⟩
    · simp only [ofParts, hargs, List.tail_nil]
    · simp only [ofParts, hfind, Option.getD_some] at hname
      exact absurd hname hne
  · rcases all_empty_or_name words with ⟨hfind, hargs⟩ | ⟨name, args, -, hfind, hargs⟩
    · simp only [ofParts, hfind, hargs, Option.getD_none, List.tail_nil]
      exact Line.onlyLastOperator_singleton []
    · simp only [ofParts, hfind, hargs, Option.getD_some, List.tail_cons]
      rw [← hargs]
      exact hwords.of_suffix (List.dropWhile_suffix _)
  · intro happend
    apply exists_lastTarget
    rintro rfl
    cases happend
  · obtain ⟨out, hout⟩ := exists_text_of_lastTarget htext .out
    obtain ⟨err, herr⟩ := exists_text_of_lastTarget htext .err
    exact ⟨out, err, hout, herr⟩

/-! ## Writing -/

/-- The words that a command is written as: first its redirections, with the given operators and
    targets, then its name and its arguments, if it has a name. -/
def render (c : Command) (outOperator errOperator : Text) (out err : Option Text) : List Text :=
  Line.redirected outOperator out ++ (Line.redirected errOperator err ++
    if c.name = [] then [] else c.name :: c.args)

variable {c : Command} {outOperator errOperator : Text} {out err : Option Text}

/-- Plain words are just the words of their pieces, and no redirections. -/
theorem parts_of_words (ws : List Text) :
    (ws.map Piece.word).filterMap Piece.word? = ws ∧
      (ws.map Piece.word).filterMap Piece.redirection? = [] := by
  induction ws with
  | nil => exact ⟨rfl, rfl⟩
  | cons w ws ih => exact ⟨congrArg (w :: ·) ih.1, ih.2⟩

theorem parts_of_redirections (rs : List Redirection) :
    (rs.map Piece.redirection).filterMap Piece.word? = [] ∧
      (rs.map Piece.redirection).filterMap Piece.redirection? = rs := by
  induction rs with
  | nil => exact ⟨rfl, rfl⟩
  | cons r rs ih => exact ⟨ih.1, congrArg (r :: ·) ih.2⟩

/-- The words that a readable command has beside its redirections. -/
theorem Readable.pieces_words (h : c.Readable) :
    Line.pieces (if c.name = [] then [] else c.name :: c.args) =
      (if c.name = [] then [] else c.name :: c.args).map Piece.word := by
  by_cases hname : c.name = []
  · rw [if_pos hname]
    rfl
  · rw [if_neg hname]
    exact Line.pieces_of_onlyLast h.onlyLast

/-- From its words, a readable command has its name and its arguments, whatever the redirections. -/
theorem Readable.ofParts_words (h : c.Readable) (rs : List Redirection) :
    ofParts (if c.name = [] then [] else c.name :: c.args) rs =
      { c with
        stdout := lastTarget? rs .out
        stderr := lastTarget? rs .err
        append := (rs.getLast?.map Redirection.append).getD false } := by
  by_cases hname : c.name = []
  · rw [if_pos hname, ofParts, hname, h.args_eq_nil hname]
    rfl
  · have hnot : c.name.isEmpty = false := List.isEmpty_eq_false_iff.mpr hname
    rw [if_neg hname]
    simp [ofParts, hnot]

/-- The redirections that a command with these targets is written with. -/
def redirections (append : Bool) (out err : Option Text) : List Redirection :=
  (out.map fun t => (⟨.out, append, Utf8.encode t⟩ : Redirection)).toList ++
    (err.map fun t => (⟨.err, append, Utf8.encode t⟩ : Redirection)).toList

theorem lastTarget_redirections (append : Bool) (out err : Option Text) :
    lastTarget? (redirections append out err) .out = out.map Utf8.encode ∧
      lastTarget? (redirections append out err) .err = err.map Utf8.encode := by
  cases out <;> cases err <;> exact ⟨rfl, rfl⟩

/-- The redirections carry the mode of the command. -/
theorem Readable.append_redirections (h : c.Readable) (htargets : c.HasTargets out err) :
    ((redirections c.append out err).getLast?.map Redirection.append).getD false = c.append := by
  cases herr : err with
  | some e => simp [redirections]
  | none =>
    cases hout : out with
    | some o => simp [redirections]
    | none =>
      -- without a target, nothing is appended to
      have hnot : ¬ c.append = true := by
        intro happend
        rcases h.exists_target happend with hsome | hsome
        · rw [htargets.stdout, hout] at hsome
          cases hsome
        · rw [htargets.stderr, herr] at hsome
          cases hsome
      exact (Bool.eq_false_iff.mpr hnot).symm

/-- The pieces that a readable command is written with. -/
theorem Readable.pieces_render (h : c.Readable)
    (hout : Line.Operator outOperator .out c.append)
    (herr : Line.Operator errOperator .err c.append) :
    Line.pieces (c.render outOperator errOperator out err) =
      (redirections c.append out err).map Piece.redirection ++
        (if c.name = [] then [] else c.name :: c.args).map Piece.word := by
  rw [render, Line.pieces_redirected hout, Line.pieces_redirected herr, h.pieces_words]
  cases out <;> cases err <;> rfl

/-- **A readable command is read back** from the words that it is written as. -/
theorem ofWords_render (h : c.Readable) (htargets : c.HasTargets out err)
    (hout : Line.Operator outOperator .out c.append)
    (herr : Line.Operator errOperator .err c.append) :
    ofWords (c.render outOperator errOperator out err) = c := by
  obtain ⟨hwords, hnone⟩ := parts_of_words (if c.name = [] then [] else c.name :: c.args)
  obtain ⟨hnowords, hredirections⟩ := parts_of_redirections (redirections c.append out err)
  obtain ⟨hlastOut, hlastErr⟩ := lastTarget_redirections c.append out err
  rw [ofWords, h.pieces_render hout herr, ofPieces_eq_ofParts, List.filterMap_append,
    List.filterMap_append, hwords, hnone, hnowords, hredirections, List.append_nil, List.nil_append,
    h.ofParts_words, hlastOut, hlastErr, ← htargets.stdout, ← htargets.stderr,
    h.append_redirections htargets]

end Command

/-! ## Quotes -/

namespace Quoting

/-- A text with a backslash before each double quote and each backslash. -/
def escape (v : Text) : Text :=
  v.flatMap fun c => if c = '"' ∨ c = '\\' then ['\\', c] else [c]

/-- A word in quotes, and its value: in single quotes as it is, or in double quotes with a backslash
    before each double quote and each backslash. -/
inductive Quoted : Text → Text → Prop where
  | single (v : Text) : '\'' ∉ v → Quoted ('\'' :: (v ++ ['\''])) v
  | double (v : Text) : Quoted ('"' :: (escape v ++ ['"'])) v

theorem inner_escape (v : Text) : Inner (escape v) v := by
  induction v with
  | nil => exact .nil
  | cons c v ih =>
    by_cases hc : c = '"' ∨ c = '\\'
    · have hcons : escape (c :: v) = '\\' :: c :: escape v := by simp [escape, hc]
      rw [hcons]
      exact .escaped hc ih
    · have hcons : escape (c :: v) = c :: escape v := by simp [escape, hc]
      rw [not_or] at hc
      rw [hcons]
      exact .plain hc.1 hc.2 ih

/-- To put a word in quotes is one way to write it. -/
theorem Quoted.word {t v : Text} (h : Quoted t v) : Word t v := by
  cases h with
  | single _ hv => exact .last (.single hv)
  | double => exact .last (.double (inner_escape v))

/-- A word of characters that stand for themselves can be written as it is. -/
theorem word_of_bare {v : Text} (h : (v.all fun c => decide (IsBare c)) = true) (hne : v ≠ []) :
    Word v v := by
  induction v with
  | nil => exact absurd rfl hne
  | cons c v ih =>
    rw [List.all_cons, Bool.and_eq_true] at h
    obtain ⟨hbare, hv⟩ := h
    have hc : IsBare c := of_decide_eq_true hbare
    by_cases hnil : v = []
    · rw [hnil]
      exact .last (.bare hc)
    · exact .cons (.bare hc) (ih hv hnil)

end Quoting

/-! ## Summary -/

/-- **What can be read can be written down.** The commands that are read from words are just the readable
    ones with text for targets. Each is read back from its redirections, with any operators of its mode,
    followed by its name and its arguments; and if none of these words is empty, also from any line of
    them, whatever the quoting of each. -/
theorem Command.written_and_read_back :
    (∀ c : Command, (∃ ws, ofWords ws = c) ↔ c.Readable ∧ ∃ out err, c.HasTargets out err) ∧
      ∀ (c : Command) (outOperator errOperator : Text) (out err : Option Text), c.Readable →
        c.HasTargets out err → Line.Operator outOperator .out c.append →
        Line.Operator errOperator .err c.append →
        let ws := c.render outOperator errOperator out err
        ofWords ws = c ∧ ((∀ w ∈ ws, w ≠ []) →
          (∃ ts, List.Forall₂ Quoting.Word ts ws) ∧
            ∀ ts, List.Forall₂ Quoting.Word ts ws →
              ofWords (Line.words (List.intercalate [' '] ts)) = c) := by
  refine ⟨?_, ?_⟩
  · intro c
    constructor
    · rintro ⟨ws, rfl⟩
      exact readable_ofWords ws
    · rintro ⟨hreadable, out, err, htargets⟩
      obtain ⟨outOperator, hout⟩ := Line.exists_operator .out c.append
      obtain ⟨errOperator, herr⟩ := Line.exists_operator .err c.append
      exact ⟨_, ofWords_render hreadable htargets hout herr⟩
  · intro c outOperator errOperator out err hreadable htargets hout herr ws
    have hread : ofWords ws = c := ofWords_render hreadable htargets hout herr
    refine ⟨hread, fun hne => ⟨Quoting.exists_quoting hne, ?_⟩⟩
    intro ts hts
    rw [Quoting.words_of_quoting hts hne, hread]

/-- A command with an operator for its last word, and with an operator for a target. -/
theorem Command.written_and_read_back_operators :
    let c : Command :=
      { name := "a".toList, args := ["b c".toList, ">".toList], stdout := some (Utf8.encode "2>".toList),
        append := true }
    let ws := c.render ">>".toList "2>>".toList (some "2>".toList) none
    ws = [">>".toList, "2>".toList, "a".toList, "b c".toList, ">".toList] ∧
      (∀ w ∈ ws, w ≠ []) ∧ c.Readable ∧ c.HasTargets (some "2>".toList) none ∧ ofWords ws = c ∧
      ofWords (Line.words ">> '2>' a 'b c' >".toList) = c := by
  intro c ws
  have hne : ∀ w ∈ ws, w ≠ [] := by decide
  have hreadable : c.Readable := ⟨by decide, by decide, by decide⟩
  have htargets : c.HasTargets (some "2>".toList) none := ⟨rfl, rfl⟩
  obtain ⟨-, hwritten⟩ := written_and_read_back
  obtain ⟨hread, hlines⟩ := hwritten c _ _ _ _ hreadable htargets .appendOut .appendErr
  let ts := [">>".toList, "'2>'".toList, "a".toList, "'b c'".toList, ">".toList]
  have hquoting : List.Forall₂ Quoting.Word ts ws :=
    .cons (Quoting.word_of_bare (by decide) (by decide)) <|
      .cons (Quoting.Quoted.single "2>".toList (by decide)).word <|
      .cons (Quoting.word_of_bare (by decide) (by decide)) <|
      .cons (Quoting.Quoted.single "b c".toList (by decide)).word <|
      .cons (Quoting.word_of_bare (by decide) (by decide)) .nil
  have hline : List.intercalate [' '] ts = ">> '2>' a 'b c' >".toList := rfl
  have hback := (hlines hne).2 ts hquoting
  rw [hline] at hback
  exact ⟨rfl, hne, hreadable, htargets, hread, hback⟩

namespace Quoting

/-- **Quoting does not tell an operator from a word.** A line of quoted words is read as the words alone
    would be. If none of them is an operator, but for the last one perhaps, then the first is the name of
    the command and the others are its arguments, with no redirection; else there is a redirection, in
    spite of the quotes. -/
theorem quoted_line_reads {v : Text} {vs ts : List Text} (hquoted : List.Forall₂ Quoted ts (v :: vs))
    (hne : ∀ u ∈ v :: vs, u ≠ []) :
    let c := Command.ofWords (Line.words (List.intercalate [' '] ts))
    c = Command.ofWords (v :: vs) ∧
      (Line.OnlyLastOperator (v :: vs) → c = { name := v, args := vs }) ∧
      (¬ Line.OnlyLastOperator (v :: vs) → c.stdout.isSome ∨ c.stderr.isSome) := by
  intro c
  have hwords : c = Command.ofWords (v :: vs) :=
    congrArg Command.ofWords (words_of_quoting (hquoted.imp fun _ _ h => h.word) hne)
  have hname : v ≠ [] := hne v List.mem_cons_self
  refine ⟨hwords, ?_, ?_⟩
  · intro honly
    let d : Command := { name := v, args := vs }
    have hreadable : d.Readable := ⟨fun h => absurd h hname, honly, nofun⟩
    have htargets : d.HasTargets none none := ⟨rfl, rfl⟩
    have hread := Command.ofWords_render hreadable htargets .out .err
    have hrender : d.render ['>'] ['2', '>'] none none = v :: vs := if_neg hname
    rw [hrender] at hread
    rw [hwords, hread]
  · intro honly
    rw [hwords, Command.ofWords, Command.ofPieces_eq_ofParts]
    apply Command.exists_lastTarget
    intro hnone
    -- without a redirection, all words would be plain ones
    have hsplits := Line.splits_pieces (v :: vs)
    have hplain := Line.onlyLast_words hsplits
    rw [Line.words_of_no_redirection hsplits hnone] at hplain
    exact honly hplain

/-- A quoted operator at the end is an argument. -/
theorem quoted_line_reads_lastOperator :
    let vs := ["echo".toList, "it's".toList, ">".toList]
    let ts := ["'echo'".toList, "\"it's\"".toList, "'>'".toList]
    List.Forall₂ Quoted ts vs ∧ (∀ v ∈ vs, v ≠ []) ∧ Line.OnlyLastOperator vs ∧
      Command.ofWords (Line.words (List.intercalate [' '] ts)) =
        { name := "echo".toList, args := ["it's".toList, ">".toList] } := by
  intro vs ts
  have hquoted : List.Forall₂ Quoted ts vs :=
    .cons (.single "echo".toList (by decide)) <| .cons (.double "it's".toList) <|
      .cons (.single ">".toList (by decide)) .nil
  have hne : ∀ v ∈ vs, v ≠ [] := by decide
  have honly : Line.OnlyLastOperator vs := by decide
  exact ⟨hquoted, hne, honly, (quoted_line_reads hquoted hne).2.1 honly⟩

/-- A quoted operator before the end takes the next word as its target, though both are quoted. -/
theorem quoted_operator_redirects :
    let vs := ["echo".toList, ">".toList, "x".toList]
    let ts := ["'echo'".toList, "'>'".toList, "'x'".toList]
    List.Forall₂ Quoted ts vs ∧ (∀ v ∈ vs, v ≠ []) ∧
      Command.ofWords (Line.words (List.intercalate [' '] ts)) =
        { name := "echo".toList, stdout := some (Utf8.encode "x".toList) } ∧
      Command.ofWords (Line.words (List.intercalate [' '] ts)) ≠
        { name := "echo".toList, args := [">".toList, "x".toList] } := by
  intro vs ts
  have hquoted : List.Forall₂ Quoted ts vs :=
    .cons (.single "echo".toList (by decide)) <| .cons (.single ">".toList (by decide)) <|
      .cons (.single "x".toList (by decide)) .nil
  exact ⟨hquoted, by decide, by decide, by decide⟩

end Quoting

end CommandShell
