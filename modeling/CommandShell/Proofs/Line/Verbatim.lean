import CommandShell.Proofs.Line.Marks
import CommandShell.Proofs.Line.Pieces

/-!
# `CommandShell.Proofs.Line.Verbatim` — texts that are read as they are

Some texts can be put on a line without any quoting and are read as one word, unchanged: those in which no
character is a mark.

## Contents
- **Verbatim.** `Verbatim`; `words_of_verbatim`, and `verbatim_of_length`: a text of which nothing is
  lost is verbatim.
- **Blanks.** `trim_concat_space` and `trim_sublist`.
- **Commands.** `ofLine_verbatim` and `ofLine_name_iff`, for a line that is a name and a space behind it.
-/

namespace CommandShell

/-! ## Verbatim texts -/

/-- Nothing in the text quotes or separates: there is no space and no quote in it, and no backslash but
    perhaps at its end. -/
structure Verbatim (t : Text) : Prop where
  space : ' ' ∉ t
  single : '\'' ∉ t
  double : '"' ∉ t
  backslash : '\\' ∉ t.dropLast

theorem verbatim_iff {t : Text} :
    Verbatim t ↔ ' ' ∉ t ∧ '\'' ∉ t ∧ '"' ∉ t ∧ '\\' ∉ t.dropLast :=
  ⟨fun h => ⟨h.space, h.single, h.double, h.backslash⟩, fun ⟨a, b, c, d⟩ => ⟨a, b, c, d⟩⟩

instance (t : Text) : Decidable (Verbatim t) := decidable_of_iff _ verbatim_iff.symm

namespace Quoting

theorem verbatim_nil : Verbatim [] := by decide

theorem verbatim_backslash : Verbatim ['\\'] := by decide

/-- A character that stands for itself may stand before any verbatim text. -/
theorem verbatim_cons_of_isBare {c : Char} (hc : IsBare c) {t : Text} :
    Verbatim (c :: t) ↔ Verbatim t := by
  obtain ⟨hspace, hsingle, hdouble, hbackslash⟩ := hc
  have hlast : '\\' ∉ (c :: t).dropLast ↔ '\\' ∉ t.dropLast := by
    cases t with
    | nil => simp
    | cons d t => simp [Ne.symm hbackslash]
  rw [verbatim_iff, verbatim_iff, hlast]
  simp [Ne.symm hspace, Ne.symm hsingle, Ne.symm hdouble]

/-- A verbatim text starts with a character that stands for itself, or is a backslash. -/
theorem isBare_or_backslash {c : Char} {t : Text} (h : Verbatim (c :: t)) :
    IsBare c ∨ c = '\\' ∧ t = [] := by
  have hspace : c ≠ ' ' := by
    rintro rfl
    exact h.space List.mem_cons_self
  have hsingle : c ≠ '\'' := by
    rintro rfl
    exact h.single List.mem_cons_self
  have hdouble : c ≠ '"' := by
    rintro rfl
    exact h.double List.mem_cons_self
  by_cases hbackslash : c = '\\'
  · refine .inr ⟨hbackslash, ?_⟩
    cases t with
    | nil => rfl
    | cons d t =>
      rw [hbackslash] at h
      exact absurd List.mem_cons_self h.backslash
  · exact .inl ⟨hspace, hsingle, hdouble, hbackslash⟩

variable {w : Text} {ws : List Text}

/-- **A verbatim text** is added to the word at hand as it is. -/
theorem finish_verbatim {t : Text} (h : Verbatim t) (w : Text) :
    (Scanner.scan ⟨.bare, false, w, ws⟩ t).finish = ws ++ [w ++ t].filter (· ≠ []) := by
  induction t generalizing w with
  | nil => rw [Scanner.scan_nil, finish_word, List.append_nil]
  | cons c t ih =>
    rcases isBare_or_backslash h with hc | ⟨rfl, rfl⟩
    · rw [Scanner.scan_cons, step_bare hc, ih ((verbatim_cons_of_isBare hc).mp h), List.append_assoc]
      rfl
    · exact finish_open .backslash w

/-- **Any other text** has a mark in it. -/
theorem verbatim_of_unmarked {t before : Text} (hbefore : Whole before) (h : Unmarked before t t) :
    Verbatim t := by
  induction t generalizing before with
  | nil => exact verbatim_nil
  | cons c t ih =>
    have hfirst : ¬ IsMark before c t ∧ Unmarked (before ++ [c]) t t := by
      cases h with
      | mark _ hrest => exact absurd hrest.sublist.length_le (Nat.not_succ_le_self _)
      | text htext hrest => exact ⟨htext, hrest⟩
    obtain ⟨htext, hrest⟩ := hfirst
    rw [isMark_iff (.bare hbefore)] at htext
    simp only [Quote.marks, not_or] at htext
    obtain ⟨hspace, hsingle, hdouble, hescape⟩ := htext
    by_cases hbackslash : c = '\\'
    · subst hbackslash
      have ht : t = [] := by simpa using hescape
      rw [ht]
      exact verbatim_backslash
    · have hc : IsBare c := ⟨hspace, hsingle, hdouble, hbackslash⟩
      exact (verbatim_cons_of_isBare hc).mpr (ih (hbefore.append (Segment.bare hc).whole) hrest)

end Quoting

namespace Line

/-- **A verbatim text** is one word, itself. -/
theorem words_of_verbatim {t : Text} (h : Verbatim t) (hne : t ≠ []) : words t = [t] := by
  rw [words, Quoting.finish_verbatim h, List.nil_append, List.nil_append]
  exact List.filter_eq_self.mpr fun v hv => decide_eq_true (List.mem_singleton.mp hv ▸ hne)

/-- The words of a line have no more characters than the line. -/
theorem length_words_le (line : Text) : (words line).flatten.length ≤ line.length :=
  (unmarked_words line).sublist.length_le

/-- **A text of which nothing is lost** is verbatim. -/
theorem verbatim_of_length {t : Text} (h : (words t).flatten.length = t.length) : Verbatim t := by
  have hunmarked := unmarked_words t
  rw [hunmarked.sublist.eq_of_length h] at hunmarked
  exact Quoting.verbatim_of_unmarked .nil hunmarked

end Line

/-! ## Blanks -/

namespace Text

/-- A space at the end of a line does not count. -/
theorem trim_concat_space (t : Text) : trim (t ++ [' ']) = trim t := by
  have hblank : isBlank ' ' = true := by decide
  unfold trim trimStart
  rw [List.dropWhile_append]
  split
  · next hempty =>
    rw [List.isEmpty_iff.mp hempty, List.dropWhile_cons_of_pos hblank]
    rfl
  · rw [trimEnd, List.reverse_append, List.reverse_singleton, List.singleton_append,
      List.dropWhile_cons_of_pos hblank]
    rfl

theorem trim_sublist (t : Text) : (trim t).Sublist t := by
  have hstart : (trimStart t).Sublist t := List.dropWhile_sublist _
  have hend : (trimEnd (trimStart t)).Sublist (trimStart t) := by
    have hrev : ((trimStart t).reverse.dropWhile isBlank).Sublist (trimStart t).reverse :=
      List.dropWhile_sublist _
    simpa [trimEnd] using hrev.reverse
  exact hend.trans hstart

end Text

/-! ## Commands -/

namespace Line

/-- A plain word among the pieces of some words is one of them. -/
theorem mem_of_word_mem_pieces {ws : List Text} {w : Text} (h : Piece.word w ∈ pieces ws) :
    w ∈ ws := by
  induction ws using pieces.induct with
  | case1 => exact absurd h List.not_mem_nil
  | case2 v =>
    rw [pieces, List.mem_singleton, Piece.word.injEq] at h
    exact List.mem_singleton.mpr h
  | case3 v t rest stream append hv ih =>
    rw [pieces, hv] at h
    rcases List.mem_cons.mp h with hword | hrest
    · cases hword
    · exact List.mem_cons_of_mem v (List.mem_cons_of_mem t (ih hrest))
  | case4 v t rest hv ih =>
    rw [pieces, hv] at h
    rcases List.mem_cons.mp h with hword | hrest
    · exact Piece.word.inj hword ▸ List.mem_cons_self
    · exact List.mem_cons_of_mem v (ih hrest)

end Line

namespace Command

/-- A command that has a name has it from one of its words. -/
theorem name_mem_words {ws : List Text} (h : (ofWords ws).name ≠ []) : (ofWords ws).name ∈ ws := by
  have hparts := ofPieces_eq_ofParts (Line.pieces ws)
  rw [ofWords, hparts] at h ⊢
  rcases all_empty_or_name ((Line.pieces ws).filterMap Piece.word?) with
    ⟨hnone, -⟩ | ⟨name, args, -, hname, -⟩
  · rw [ofParts, hnone] at h
    exact absurd rfl h
  · rw [ofParts, hname]
    obtain ⟨piece, hpiece, hword⟩ := List.mem_filterMap.mp (List.mem_of_find?_eq_some hname)
    cases piece with
    | redirection r => cases hword
    | word w =>
      obtain rfl : w = name := Option.some.inj hword
      exact Line.mem_of_word_mem_pieces hpiece

variable {n : Text}

/-- **A verbatim name** with a space behind it is a command with this name, and with nothing else. -/
theorem ofLine_verbatim (hn : n ≠ []) (htrim : Text.trim n = n) (h : Verbatim n) :
    ofLine (n ++ [' ']) = { name := n } := by
  rw [ofLine, Text.trim_concat_space, htrim, Line.words_of_verbatim h hn]
  rfl

/-- **Only a verbatim name** without blanks at its ends is read as itself. -/
theorem ofLine_name_iff (hn : n ≠ []) :
    (ofLine (n ++ [' '])).name = n ↔ Text.trim n = n ∧ Verbatim n := by
  constructor
  · intro hname
    rw [ofLine, Text.trim_concat_space] at hname
    have hmem := name_mem_words (hname.symm ▸ hn)
    rw [hname] at hmem
    -- the name is not longer than the words of its trimmed form, so that nothing at all is lost
    have hword := (List.sublist_flatten_of_mem hmem).length_le
    have hwords := Line.length_words_le (Text.trim n)
    have htrim : Text.trim n = n :=
      (Text.trim_sublist n).eq_of_length_le (Nat.le_trans hword hwords)
    rw [htrim] at hword hwords
    exact ⟨htrim, Line.verbatim_of_length (Nat.le_antisymm hwords hword)⟩
  · rintro ⟨htrim, h⟩
    rw [ofLine_verbatim hn htrim h]

end Command

end CommandShell
