import CommandShell.Proofs.Line.Ends

/-!
# `CommandShell.Proofs.Line.Marks` — what splitting a line deletes from it

Nothing is added to a line when it is split, and nothing changes its place: the words, put one behind the
other, are the line without its marks. Marks are the quotes that open and close a quotation, the backslashes
that escape a character, and the spaces that separate words; whether a character is one depends only on what
is open in front of it and, for a backslash, on the next character.

## Contents
- **Marks.** `Quote.marks` is the table of marks, `IsMark` puts it to a place of a line, and `Unmarked` is the
  text that is left without them.
- **Machine.** `Comes` is said of what a state makes of the text behind some place;
  `step_gathered` and `step_waiting_gathered` for one character, `comes` for the rest of the line.
- **Summary.** `words_lose_marks`.
-/

namespace CommandShell

/-! ## Marks -/

/-- Whether a character that no backslash waits for is a mark in a quotation, with what stands behind it. A
    backslash is one if it escapes the next character. -/
def Quote.marks (after : Text) : Quote → Char → Prop
  | .bare, c => c = ' ' ∨ c = '\'' ∨ c = '"' ∨ c = '\\' ∧ after ≠ []
  | .single, c => c = '\''
  | .double, c => c = '"' ∨ c = '\\' ∧ (after.head? = some '"' ∨ after.head? = some '\\')

namespace Quoting

variable {before after kept : Text} {c : Char} {q : Quote}

/-- A mark, between the text before it and the text behind it. -/
def IsMark (before : Text) (c : Char) (after : Text) : Prop := ∃ q, Leaves before q ∧ q.marks after c

/-- What is left of the text behind `before` without its marks. -/
inductive Unmarked : Text → Text → Text → Prop where
  | nil {before : Text} : Unmarked before [] []
  | mark {before after kept : Text} {c : Char} (hmark : IsMark before c after)
      (hrest : Unmarked (before ++ [c]) after kept) : Unmarked before (c :: after) kept
  | text {before after kept : Text} {c : Char} (htext : ¬ IsMark before c after)
      (hrest : Unmarked (before ++ [c]) after kept) : Unmarked before (c :: after) (c :: kept)

/-- One quotation is open at the end of a text. -/
theorem Leaves.unique {q' : Quote} (h : Leaves before q) (h' : Leaves before q') : q = q' := by
  rw [← (leaves_iff.mp h).1, (leaves_iff.mp h').1]

/-- Where a quotation is open, its row of the table decides. -/
theorem isMark_iff (h : Leaves before q) : IsMark before c after ↔ q.marks after c := by
  constructor
  · rintro ⟨q', h', hmarks⟩
    rw [h.unique h']
    exact hmarks
  · intro hmarks
    exact ⟨q, h, hmarks⟩

/-- A character that a backslash waits for is no mark. -/
theorem not_isMark_of_waits (h : Waits before) : ¬ IsMark before c after := by
  rintro ⟨q, hleaves, -⟩
  have hwaiting := waits_iff.mp h
  rw [(leaves_iff.mp hleaves).2] at hwaiting
  cases hwaiting

/-- A character that stands for itself outside quotes is never a mark. -/
theorem not_isMark_of_isBare (hc : IsBare c) : ¬ IsMark before c after := by
  obtain ⟨hspace, hsingle, hdouble, hbackslash⟩ := hc
  rintro ⟨q, -, hmarks⟩
  cases q <;> simp_all [Quote.marks]

/-- **A space is a mark** just outside quotes, where no backslash waits for it. -/
theorem isMark_space_iff : IsMark before ' ' after ↔ Leaves before .bare := by
  constructor
  · rintro ⟨q, hleaves, hmarks⟩
    cases q with
    | bare => exact hleaves
    | single => simp [Quote.marks] at hmarks
    | double => simp [Quote.marks] at hmarks
  · intro h
    exact ⟨.bare, h, .inl rfl⟩

/-! ### Texts without their marks -/

theorem Unmarked.sublist (h : Unmarked before after kept) : kept.Sublist after := by
  induction h with
  | nil => exact .slnil
  | mark _ _ ih => exact .cons _ ih
  | text _ _ ih => exact .cons_cons _ ih

/-- All characters that stand for themselves anywhere are left, in their order. -/
theorem Unmarked.filter_isBare (h : Unmarked before after kept) :
    kept.filter (IsBare ·) = after.filter (IsBare ·) := by
  induction h with
  | nil => rfl
  | @mark before after kept c hmark _ ih =>
    have hc : ¬ IsBare c := fun hc => not_isMark_of_isBare hc hmark
    rw [ih, List.filter_cons_of_neg (by simpa using hc)]
  | text _ _ ih => rw [List.filter_cons, List.filter_cons, ih]

/-- There is one text that is left. -/
theorem Unmarked.unique {kept' : Text} (h : Unmarked before after kept)
    (h' : Unmarked before after kept') : kept = kept' := by
  induction h generalizing kept' with
  | nil =>
    cases h'
    rfl
  | mark hmark _ ih =>
    cases h' with
    | mark _ hrest => exact ih hrest
    | text htext _ => exact absurd hmark htext
  | text htext _ ih =>
    cases h' with
    | mark hmark _ => exact absurd hmark htext
    | text _ hrest => rw [ih hrest]

/-! ## The machine -/

variable {w : Text} {ws : List Text}

/-- From the state `s`, what stands behind `before` comes through as the text that is left of it without its
    marks. -/
def Comes (before after : Text) (s : Scanner) : Prop :=
  ∃ kept, Unmarked before after kept ∧ (s.scan after).finish.flatten = s.gathered ++ kept

/-- A mark adds nothing. -/
theorem comes_of_mark {s s' : Scanner} (hmark : IsMark before c after) (hstep : s.step c = s')
    (hgathered : s'.gathered = s.gathered) (h : Comes (before ++ [c]) after s') :
    Comes before (c :: after) s := by
  obtain ⟨kept, hkept, hscan⟩ := h
  refine ⟨kept, .mark hmark hkept, ?_⟩
  rw [Scanner.scan_cons, hstep, hscan, hgathered]

/-- Any other character adds itself. -/
theorem comes_of_text {s s' : Scanner} (htext : ¬ IsMark before c after) (hstep : s.step c = s')
    (hgathered : s'.gathered = s.gathered ++ [c]) (h : Comes (before ++ [c]) after s') :
    Comes before (c :: after) s := by
  obtain ⟨kept, hkept, hscan⟩ := h
  refine ⟨c :: kept, .text htext hkept, ?_⟩
  rw [Scanner.scan_cons, hstep, hscan, hgathered, List.append_assoc]
  rfl

/-- Any character but a backslash outside single quotes is a mark, or adds itself. No backslash waits behind
    it. -/
theorem step_gathered (w : Text) (ws : List Text) (after : Text) {q : Quote}
    (hc : c = '\\' → q = .single) :
    (Scanner.step ⟨q, false, w, ws⟩ c).escaping = false ∧
      (q.marks after c ∧
          (Scanner.step ⟨q, false, w, ws⟩ c).gathered = Scanner.gathered ⟨q, false, w, ws⟩ ∨
        ¬ q.marks after c ∧
          (Scanner.step ⟨q, false, w, ws⟩ c).gathered = Scanner.gathered ⟨q, false, w, ws⟩ ++ [c]) := by
  cases q with
  | bare =>
    have hbackslash : c ≠ '\\' := fun h => absurd (hc h) (by decide)
    by_cases hspace : c = ' '
    · subst hspace
      rw [step_space]
      refine ⟨rfl, .inl ⟨.inl rfl, ?_⟩⟩
      by_cases hw : w = [] <;> simp [Scanner.gathered, hw]
    by_cases hsingle : c = '\''
    · subst hsingle
      exact ⟨rfl, .inl ⟨.inr (.inl rfl), rfl⟩⟩
    by_cases hdouble : c = '"'
    · subst hdouble
      exact ⟨rfl, .inl ⟨.inr (.inr (.inl rfl)), rfl⟩⟩
    · rw [step_bare ⟨hspace, hsingle, hdouble, hbackslash⟩]
      refine ⟨rfl, .inr ⟨?_, (List.append_assoc ..).symm⟩⟩
      simp [Quote.marks, hspace, hsingle, hdouble, hbackslash]
  | single =>
    by_cases hsingle : c = '\''
    · subst hsingle
      exact ⟨rfl, .inl ⟨rfl, rfl⟩⟩
    · rw [step_in_single hsingle]
      exact ⟨rfl, .inr ⟨hsingle, (List.append_assoc ..).symm⟩⟩
  | double =>
    have hbackslash : c ≠ '\\' := fun h => absurd (hc h) (by decide)
    by_cases hdouble : c = '"'
    · subst hdouble
      exact ⟨rfl, .inl ⟨.inl rfl, rfl⟩⟩
    · rw [step_in_double hdouble hbackslash]
      refine ⟨rfl, .inr ⟨?_, (List.append_assoc ..).symm⟩⟩
      simp [Quote.marks, hdouble, hbackslash]

/-- A backslash outside single quotes waits. -/
theorem step_backslash {q : Quote} (hq : q ≠ .single) :
    Scanner.step ⟨q, false, w, ws⟩ '\\' = ⟨q, true, w, ws⟩ := by
  cases q with
  | bare => rfl
  | single => exact absurd rfl hq
  | double => rfl

/-- The character that a backslash waits for adds itself, and the backslash too unless that is a mark. -/
theorem step_waiting_gathered (w : Text) (ws : List Text) (after : Text) {q : Quote}
    (hq : q ≠ .single) (d : Char) :
    (Scanner.step ⟨q, true, w, ws⟩ d).escaping = false ∧
      (q.marks (d :: after) '\\' ∧
          (Scanner.step ⟨q, true, w, ws⟩ d).gathered = Scanner.gathered ⟨q, false, w, ws⟩ ++ [d] ∨
        ¬ q.marks (d :: after) '\\' ∧
          (Scanner.step ⟨q, true, w, ws⟩ d).gathered =
            Scanner.gathered ⟨q, false, w, ws⟩ ++ ['\\', d]) := by
  cases q with
  | bare =>
    rw [step_escaped]
    refine ⟨rfl, .inl ⟨?_, (List.append_assoc ..).symm⟩⟩
    simp [Quote.marks]
  | single => exact absurd rfl hq
  | double =>
    by_cases hd : d = '"' ∨ d = '\\'
    · rw [step_escaped_in_double hd]
      refine ⟨rfl, .inl ⟨?_, (List.append_assoc ..).symm⟩⟩
      simpa [Quote.marks] using hd
    · rw [not_or] at hd
      rw [step_kept_in_double hd.1 hd.2]
      refine ⟨rfl, .inr ⟨?_, (List.append_assoc ..).symm⟩⟩
      simp [Quote.marks, hd]

/-! ### The rest of a line -/

/-- One character, and what the rest of the line makes of the next state. -/
theorem comes_of_step {q : Quote} (hleaves : Leaves before q) (hc : c = '\\' → q = .single)
    (h : (Scanner.step ⟨q, false, w, ws⟩ c).escaping = false →
      Comes (before ++ [c]) after (Scanner.step ⟨q, false, w, ws⟩ c)) :
    Comes before (c :: after) ⟨q, false, w, ws⟩ := by
  obtain ⟨hescaping, ⟨hmark, hgathered⟩ | ⟨htext, hgathered⟩⟩ :=
    step_gathered w ws after hc
  · exact comes_of_mark ((isMark_iff hleaves).mpr hmark) rfl hgathered (h hescaping)
  · exact comes_of_text (mt (isMark_iff hleaves).mp htext) rfl hgathered (h hescaping)

/-- A backslash and the character that it waits for, and what the rest of the line makes of the next state. -/
theorem comes_of_backslash {q : Quote} (hleaves : Leaves before q) (hq : q ≠ .single)
    (hwaits : Waits (before ++ ['\\'])) {d : Char}
    (h : (Scanner.step ⟨q, true, w, ws⟩ d).escaping = false →
      Comes (before ++ ['\\'] ++ [d]) after (Scanner.step ⟨q, true, w, ws⟩ d)) :
    Comes before ('\\' :: d :: after) ⟨q, false, w, ws⟩ := by
  obtain ⟨hescaping, ⟨hmark, hgathered⟩ | ⟨htext, hgathered⟩⟩ :=
    step_waiting_gathered w ws after hq d
  · apply comes_of_mark ((isMark_iff hleaves).mpr hmark) (step_backslash hq) rfl
    exact comes_of_text (not_isMark_of_waits hwaits) rfl hgathered (h hescaping)
  · -- the machine adds the backslash only together with the character behind it
    obtain ⟨kept, hkept, hscan⟩ := h hescaping
    have htext' : ¬ IsMark before '\\' (d :: after) := mt (isMark_iff hleaves).mp htext
    refine ⟨'\\' :: d :: kept, .text htext' (.text (not_isMark_of_waits hwaits) hkept), ?_⟩
    rw [Scanner.scan_cons, step_backslash hq, Scanner.scan_cons, hscan, hgathered, List.append_assoc]
    rfl

/-- At the end of the line, a backslash stands for itself. -/
theorem comes_last_backslash {q : Quote} (hleaves : Leaves before q) (hq : q ≠ .single) :
    Comes before ['\\'] ⟨q, false, w, ws⟩ := by
  have htext : ¬ q.marks [] '\\' := by cases q <;> simp [Quote.marks]
  refine ⟨['\\'], .text (mt (isMark_iff hleaves).mp htext) .nil, ?_⟩
  rw [Scanner.scan_cons, step_backslash hq, Scanner.scan_nil, finish_escaping, finish_gathered]
  exact (List.append_assoc ..).symm

/-- **The rest of a line** comes through without its marks, from every state in which no backslash waits. -/
theorem comes (before after : Text) (h : (Scanner.scan {} before).escaping = false) :
    Comes before after (Scanner.scan {} before) := by
  obtain ⟨q, hleaves⟩ : ∃ q, Leaves before q := ⟨_, leaves_iff.mpr ⟨rfl, h⟩⟩
  obtain ⟨w, ws, hscan⟩ := scan_leaves hleaves
  have hnext (c : Char) : Scanner.scan {} (before ++ [c]) = Scanner.step ⟨q, false, w, ws⟩ c := by
    rw [Scanner.scan_append, hscan]
    rfl
  rw [hscan]
  match after with
  | [] =>
    refine ⟨[], .nil, ?_⟩
    rw [Scanner.scan_nil, finish_gathered, List.append_nil]
  | c :: after =>
    by_cases hc : c = '\\' → q = .single
    · apply comes_of_step hleaves hc
      rw [← hnext]
      exact comes (before ++ [c]) after
    · obtain ⟨rfl, hq⟩ := Classical.not_imp.mp hc
      have hopen : Scanner.scan {} (before ++ ['\\']) = ⟨q, true, w, ws⟩ := by
        rw [hnext, step_backslash hq]
      match after with
      | [] => exact comes_last_backslash hleaves hq
      | d :: after =>
        -- the backslash takes the next character along
        have hscan' : Scanner.scan {} (before ++ ['\\'] ++ [d]) = Scanner.step ⟨q, true, w, ws⟩ d := by
          rw [Scanner.scan_append, hopen]
          rfl
        apply comes_of_backslash hleaves hq (waits_iff.mpr (by rw [hopen]))
        rw [← hscan']
        exact comes (before ++ ['\\'] ++ [d]) after
termination_by after.length

end Quoting

/-! ## Summary -/

namespace Line

open Quoting (IsBare IsMark Leaves Unmarked)

/-- The words of a line are the line without its marks, cut between two words. -/
theorem unmarked_words (line : Text) : Unmarked [] line (words line).flatten := by
  obtain ⟨kept, hkept, hscan⟩ := Quoting.comes [] line rfl
  have heq : (words line).flatten = kept := hscan
  rw [heq]
  exact hkept

/-- **Splitting a line adds nothing and loses nothing but marks.** The words, put one behind the other, are
    what is left of the line when its marks are deleted, and this is the only text that is left. So they are a
    subsequence of the line; the characters that are never marks are all there, as often and in the order as
    in the line. Of the spaces of the line just those are missing that stand outside quotes and have no
    backslash waiting for them. No word is empty. -/
theorem words_lose_marks (line : Text) :
    (words line).flatten.Sublist line ∧
      (words line).flatten.filter (IsBare ·) = line.filter (IsBare ·) ∧
      (∀ w ∈ words line, w ≠ []) ∧
      (∀ kept, Unmarked [] line kept ↔ kept = (words line).flatten) ∧
      ∀ before after, IsMark before ' ' after ↔ Leaves before .bare := by
  have hline := unmarked_words line
  refine ⟨hline.sublist, hline.filter_isBare, fun w => Quoting.ne_nil_of_mem_words, ?_, ?_⟩
  · intro kept
    constructor
    · exact fun hkept => hkept.unique hline
    · rintro rfl
      exact hline
  · intro before after
    exact Quoting.isMark_space_iff

/-- An escaped space and a quoted one stay, and the backslash before another letter in double quotes. -/
example : (words "a\\ b 'c d'  \"\\e\\\\\" ".toList).flatten = "a bc d\\e\\".toList := by decide

end Line

end CommandShell
