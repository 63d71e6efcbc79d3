import CommandShell.Proofs.Line.Verbatim
import CommandShell.Proofs.World.Opening
import Mathlib.Data.List.TakeWhile

/-!
# `CommandShell.Proofs.Shell.Idle` — lines that ask for nothing

A command without a name is passed over: no builtin or program is run, and no file is opened for it. A blank
line makes such a command, but it is not the only one. Quotes may leave no word at all, and all the words of
a line may belong to redirections.

## Contents
- **Blank lines.** `Text.trim_eq_nil_iff`.
- **Lines without words.** `Quoting.Hollow` tells them by their characters; `Line.words_eq_nil_iff`.
- **Words without a name.** `Line.RedirectionRow`, and `Command.ofWords_isEmpty_iff`.
- **Summary.** `nothing_asked_iff`; `redirection_asks_nothing` is a line that is not blank.
-/

namespace CommandShell

/-! ## Blank lines -/

/-- **Trimming leaves nothing** just of a line of blanks. -/
theorem Text.trim_eq_nil_iff {line : Text} : trim line = [] ↔ ∀ c ∈ line, isBlank c = true := by
  have hend (s : Text) : trimEnd s = [] ↔ ∀ c ∈ s, isBlank c = true := by
    simp [trimEnd, List.dropWhile_eq_nil_iff]
  unfold trim trimStart
  rw [hend]
  constructor
  · intro h c hc
    rw [← List.takeWhile_append_dropWhile (p := isBlank) (l := line)] at hc
    rcases List.mem_append.mp hc with hc | hc
    · exact List.mem_takeWhile_imp hc
    · exact h c hc
  · intro h c hc
    exact h c ((List.dropWhile_sublist isBlank).subset hc)

/-! ## Lines without words -/

namespace Quoting

/-- Spaces and pairs of quotes with nothing between them; one more quote may stand at the end. -/
inductive Hollow : Text → Prop where
  | nil : Hollow []
  | space {t : Text} : Hollow t → Hollow (' ' :: t)
  | single {t : Text} : Hollow t → Hollow ('\'' :: '\'' :: t)
  | double {t : Text} : Hollow t → Hollow ('"' :: '"' :: t)
  | openSingle : Hollow ['\'']
  | openDouble : Hollow ['"']

variable {s t v : Text}

theorem Inner.eq_nil (h : Inner t []) : t = [] := by cases h; rfl

/-- A segment without a value is a pair of quotes. -/
theorem Segment.hollow_append (hs : Segment s []) (ht : Hollow t) : Hollow (s ++ t) := by
  cases hs with
  | single _ => exact .single ht
  | double hinner =>
    rw [hinner.eq_nil]
    exact .double ht

theorem Word.hollow_append (hs : Word s v) (hv : v = []) (ht : Hollow t) : Hollow (s ++ t) := by
  induction hs with
  | last hsegment =>
    subst hv
    exact hsegment.hollow_append ht
  | cons hsegment _ ih =>
    obtain ⟨rfl, hv⟩ := List.append_eq_nil_iff.mp hv
    rw [List.append_assoc]
    exact hsegment.hollow_append (ih hv)

/-- What the end of the line cuts short has no value just if it is a lone quote. -/
theorem OpenWord.hollow (hs : OpenWord s v) (hv : v = []) : Hollow s := by
  induction hs with
  | last hopen =>
    subst hv
    generalize hnil : ([] : Text) = v at hopen
    cases hopen with
    | single _ =>
      subst hnil
      exact .openSingle
    | double hinner =>
      subst hnil
      rw [hinner.eq_nil]
      exact .openDouble
    | backslash => cases hnil
    | doubleBackslash _ => exact absurd hnil.symm (by simp)
  | cons hsegment _ ih =>
    obtain ⟨rfl, hv⟩ := List.append_eq_nil_iff.mp hv
    exact hsegment.hollow_append (ih hv)

/-- A line all of whose words are empty has nothing in it but spaces and quotes. -/
theorem Reading.hollow {vs : List Text} (h : Reading t vs) (hvs : ∀ v ∈ vs, v = []) : Hollow t := by
  induction h with
  | nil => exact .nil
  | space _ ih => exact .space (ih hvs)
  | word hword _ ih =>
    obtain ⟨hv, hvs⟩ := List.forall_mem_cons.mp hvs
    exact hword.hollow_append hv (.space (ih hvs))
  | @last w v hword =>
    have hhollow := hword.hollow_append (hvs v List.mem_cons_self) .nil
    rwa [List.append_nil] at hhollow
  | @openLast w v hword => exact hword.hollow (hvs v List.mem_cons_self)

end Quoting

namespace Line

open Quoting (Hollow)

theorem words_of_hollow {t : Text} (h : Hollow t) : words t = [] := by
  induction h with
  | nil => rfl
  | space _ ih => exact ih
  | single _ ih => exact ih
  | double _ ih => exact ih
  | openSingle => rfl
  | openDouble => rfl

/-- **There is no word** just in a line of spaces and empty quotes. -/
theorem words_eq_nil_iff {t : Text} : words t = [] ↔ Hollow t := by
  constructor
  · intro h
    obtain ⟨vs, hreading⟩ := Quoting.exists_reading t
    rw [Quoting.words_of_reading hreading, List.filter_eq_nil_iff] at h
    apply hreading.hollow
    intro v hv
    simpa using h v hv
  · exact words_of_hollow

/-! ## Words without a name -/

/-- Redirections and nothing else: each operator has its target behind it. -/
inductive RedirectionRow : List Text → Prop where
  | last {operator target : Text} {stream : Stream} {append : Bool}
      (h : Operator operator stream append) : RedirectionRow [operator, target]
  | cons {operator target : Text} {rest : List Text} {stream : Stream} {append : Bool}
      (h : Operator operator stream append) (hrest : RedirectionRow rest) :
      RedirectionRow (operator :: target :: rest)

/-- **No plain word** is among the pieces just if all words belong to redirections. -/
theorem plainWords_eq_nil_iff {ws : List Text} :
    (pieces ws).filterMap Piece.word? = [] ↔ ws = [] ∨ RedirectionRow ws := by
  induction ws using pieces.induct with
  | case1 => simp [pieces]
  | case2 w =>
    -- a single word has no target, be it an operator or not
    have hrow : ¬ RedirectionRow [w] := by
      intro hrow
      cases hrow
    simp [pieces, Piece.word?, hrow]
  | case3 w t rest stream append hw ih =>
    have hoperator := operator?_eq_some_iff.mp hw
    have hpieces : (pieces (w :: t :: rest)).filterMap Piece.word? =
        (pieces rest).filterMap Piece.word? := by
      rw [pieces_of_operator hoperator]
      rfl
    rw [hpieces, ih]
    constructor
    · rintro (rfl | hrest)
      · exact .inr (.last hoperator)
      · exact .inr (.cons hoperator hrest)
    · rintro (hnil | hrow)
      · cases hnil
      · cases hrow with
        | last _ => exact .inl rfl
        | cons _ hrest => exact .inr hrest
  | case4 w t rest hw ih =>
    have hplain := operator?_eq_none_iff.mp hw
    have hrow : ¬ RedirectionRow (w :: t :: rest) := by
      intro hrow
      cases hrow with
      | last h => exact hplain _ _ h
      | cons h _ => exact hplain _ _ h
    simp [pieces_of_word hplain, Piece.word?, hrow]

end Line

namespace Command

open Line (pieces RedirectionRow)

/-- Words that are not empty make a command without a name just if none of them is plain. -/
theorem ofWords_isEmpty_iff {ws : List Text} (hws : ∀ w ∈ ws, w ≠ []) :
    (ofWords ws).isEmpty = true ↔ ws = [] ∨ RedirectionRow ws := by
  rw [← Line.plainWords_eq_nil_iff, isEmpty, List.isEmpty_iff, ofWords, ofPieces_eq_ofParts]
  constructor
  · intro hname
    apply List.eq_nil_iff_forall_not_mem.mpr
    intro w hw
    -- a plain word is one of the words, and is found as the name
    have hne : w ≠ [] := by
      obtain ⟨piece, hpiece, hword⟩ := List.mem_filterMap.mp hw
      cases piece with
      | redirection r => cases hword
      | word v =>
        obtain rfl : v = w := Option.some.inj hword
        exact hws v (Line.mem_of_word_mem_pieces hpiece)
    rcases all_empty_or_name ((pieces ws).filterMap Piece.word?) with
      ⟨hnone, -⟩ | ⟨name, args, hne', hname', -⟩
    · simpa [hne] using List.find?_eq_none.mp hnone w hw
    · rw [ofParts, hname'] at hname
      exact hne' hname
  · intro hnil
    rw [hnil]
    rfl

/-! ## Summary -/

/-- **A line asks for nothing** in three cases: it is blank; there is nothing in it but spaces and empty
    quotes, as far as trimming leaves any of it; or all its words belong to redirections. Then nothing at all
    is done, and no target is opened. -/
theorem nothing_asked_iff (line : Text) :
    ((ofLine line).isEmpty = true ↔
      (∀ c ∈ line, Text.isBlank c = true) ∨ Quoting.Hollow (Text.trim line) ∨
        RedirectionRow (Line.words (Text.trim line))) ∧
      ((ofLine line).isEmpty = true → ∀ (launch : Launcher) (settings : Settings) (w : World),
        w.execute launch settings (ofLine line) = (w, .ok .goOn)) := by
  constructor
  · have hwords : (ofLine line).isEmpty = true ↔
        Quoting.Hollow (Text.trim line) ∨ RedirectionRow (Line.words (Text.trim line)) := by
      rw [ofLine, ofWords_isEmpty_iff fun w => Quoting.ne_nil_of_mem_words, Line.words_eq_nil_iff]
    rw [hwords]
    constructor
    · exact .inr
    · rintro (hblank | h)
      · rw [Text.trim_eq_nil_iff.mpr hblank]
        exact .inl .nil
      · exact h
  · intro hempty launch settings w
    exact World.execute_of_no_name (List.isEmpty_iff.mp hempty) launch settings w

/-- **A line that is not blank** asks for nothing all the same: a redirection alone does not make its file,
    and two quotes are no name. -/
theorem redirection_asks_nothing :
    let line := "> out".toList
    let quotes := "''".toList
    ¬ (∀ c ∈ line, Text.isBlank c = true) ∧ (ofLine line).isEmpty = true ∧
      (ofLine line).stdout = some (Utf8.encode "out".toList) ∧
      (∀ (launch : Launcher) (settings : Settings) (w : World),
        w.execute launch settings (ofLine line) = (w, .ok .goOn)) ∧
      ¬ (∀ c ∈ quotes, Text.isBlank c = true) ∧ (ofLine quotes).isEmpty = true := by
  intro line quotes
  have hempty : (ofLine line).isEmpty = true := by decide
  refine ⟨?_, hempty, by decide, ?_, ?_, by decide⟩
  · intro hblank
    exact absurd (hblank '>' List.mem_cons_self) (by decide)
  · intro launch settings w
    exact World.execute_of_no_name (List.isEmpty_iff.mp hempty) launch settings w
  · intro hblank
    exact absurd (hblank _ List.mem_cons_self) (by decide)

end Command

end CommandShell
