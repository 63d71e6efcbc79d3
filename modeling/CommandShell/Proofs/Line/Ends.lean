import CommandShell.Line.Command
import CommandShell.Proofs.Line.Quoting

/-!
# `CommandShell.Proofs.Line.Ends` — what is open at the end of a line

Where a text ends, a quote may be open, or a backslash may wait for its character. That alone decides how
what is put behind the text is read. If the open quote is closed, another line can follow after a space, and
each of the two has the words that it has alone. The spaces at the end of a line are left out of its words
only if nothing is open where they begin; trimming leaves them out in any case.

## Contents
- **Ends.** `Whole`, `Leaves` and `Waits` tell the ends of texts by the quoting grammar. Every text has
  one of them (`leaves_or_waits`), and it is the state that the machine is in: `leaves_iff`, `waits_iff`.
- **Joined lines.** `Quote.closing` closes a quote; `words_closed` and `words_closed_append`.
- **Trimmed lines.** `finish_spaces_iff`, spaces that the machine finds at the end of a line.
- **Summary.** `words_joined` and `trimmed_words_iff`; `trimmed_word_changes` is a line that trimming
  changes.
-/

namespace CommandShell

namespace Quoting

/-! ## Ends -/

/-- A text of whole segments and of spaces between them. -/
inductive Whole : Text → Prop where
  | nil : Whole []
  | space {t : Text} : Whole t → Whole (' ' :: t)
  | segment {s v t : Text} : Segment s v → Whole t → Whole (s ++ t)

/-- The quotation that is open at the end of a text, where no backslash waits. -/
inductive Leaves : Text → Quote → Prop where
  | bare {t : Text} : Whole t → Leaves t .bare
  | single {t s : Text} : Whole t → '\'' ∉ s → Leaves (t ++ '\'' :: s) .single
  | double {t s v : Text} : Whole t → Inner s v → Leaves (t ++ '"' :: s) .double

/-- A backslash outside single quotes waits for its character at the end of a text. -/
inductive Waits : Text → Prop where
  | bare {t : Text} : Whole t → Waits (t ++ ['\\'])
  | double {t s v : Text} : Whole t → Inner s v → Waits (t ++ '"' :: (s ++ ['\\']))

theorem Whole.append {s t : Text} (hs : Whole s) (ht : Whole t) : Whole (s ++ t) := by
  induction hs with
  | nil => exact ht
  | space _ ih => exact .space ih
  | segment hsegment _ ih =>
    rw [List.append_assoc]
    exact .segment hsegment ih

theorem Segment.whole {s v : Text} (h : Segment s v) : Whole s := by
  rw [← List.append_nil s]
  exact .segment h .nil

theorem Leaves.behind {s t : Text} {q : Quote} (hs : Whole s) (h : Leaves t q) : Leaves (s ++ t) q := by
  cases h with
  | bare ht => exact .bare (hs.append ht)
  | single ht hinner =>
    rw [← List.append_assoc]
    exact .single (hs.append ht) hinner
  | double ht hinner =>
    rw [← List.append_assoc]
    exact .double (hs.append ht) hinner

theorem Waits.behind {s t : Text} (hs : Whole s) (h : Waits t) : Waits (s ++ t) := by
  cases h with
  | bare ht =>
    rw [← List.append_assoc]
    exact .bare (hs.append ht)
  | double ht hinner =>
    rw [← List.append_assoc]
    exact .double (hs.append ht) hinner

/-- A text that the end of the line cuts short has something open there. -/
theorem Open.leaves_or_waits {t v : Text} (h : Open t v) : (∃ q, Leaves t q) ∨ Waits t := by
  cases h with
  | single ht => exact .inl ⟨.single, .single .nil ht⟩
  | double hinner => exact .inl ⟨.double, .double .nil hinner⟩
  | backslash => exact .inr (.bare .nil)
  | doubleBackslash hinner => exact .inr (.double .nil hinner)

/-- **Every text ends in one of these ways**: segment after segment is cut off, until the rest is none. -/
theorem leaves_or_waits (t : Text) : (∃ q, Leaves t q) ∨ Waits t := by
  match t with
  | [] => exact .inl ⟨.bare, .bare .nil⟩
  | c :: t =>
    by_cases hc : c = ' '
    · subst hc
      have hspace : Whole [' '] := .space .nil
      rcases leaves_or_waits t with ⟨q, h⟩ | h
      · exact .inl ⟨q, h.behind hspace⟩
      · exact .inr (h.behind hspace)
    rcases segment_or_open hc t with ⟨s, v, rest, hs, hne, hsegment⟩ | ⟨v, hopen⟩
    · have hlt : rest.length < t.length + 1 := by
        have hlen := congrArg List.length hs
        have hpos := List.length_pos_iff.mpr hne
        simp only [List.length_cons, List.length_append] at hlen
        omega
      rw [hs]
      rcases leaves_or_waits rest with ⟨q, h⟩ | h
      · exact .inl ⟨q, h.behind hsegment.whole⟩
      · exact .inr (h.behind hsegment.whole)
    · exact hopen.leaves_or_waits
termination_by t.length

/-! ### The state of the machine -/

/-- Behind whole segments the machine is between segments. -/
theorem scan_whole {t : Text} (h : Whole t) (w : Text) (ws : List Text) :
    ∃ w' ws', Scanner.scan ⟨.bare, false, w, ws⟩ t = ⟨.bare, false, w', ws'⟩ := by
  induction h generalizing w ws with
  | nil => exact ⟨w, ws, rfl⟩
  | space _ ih =>
    rw [Scanner.scan_cons, step_space]
    exact ih [] _
  | segment hsegment _ ih =>
    rw [Scanner.scan_append, scan_segment hsegment]
    exact ih _ ws

theorem scan_leaves {t : Text} {q : Quote} (h : Leaves t q) :
    ∃ w ws, Scanner.scan {} t = ⟨q, false, w, ws⟩ := by
  cases h with
  | bare ht => exact scan_whole ht [] []
  | single ht hinner =>
    obtain ⟨w, ws, hw⟩ := scan_whole ht [] []
    have hopen : Scanner.step ⟨.bare, false, w, ws⟩ '\'' = ⟨.single, false, w, ws⟩ := rfl
    rw [Scanner.scan_append, hw, Scanner.scan_cons, hopen, scan_single hinner]
    exact ⟨_, _, rfl⟩
  | double ht hinner =>
    obtain ⟨w, ws, hw⟩ := scan_whole ht [] []
    have hopen : Scanner.step ⟨.bare, false, w, ws⟩ '"' = ⟨.double, false, w, ws⟩ := rfl
    rw [Scanner.scan_append, hw, Scanner.scan_cons, hopen, scan_inner hinner]
    exact ⟨_, _, rfl⟩

theorem scan_waits {t : Text} (h : Waits t) :
    ∃ q w ws, q ≠ Quote.single ∧ Scanner.scan {} t = ⟨q, true, w, ws⟩ := by
  cases h with
  | bare ht =>
    obtain ⟨w, ws, hw⟩ := scan_whole ht [] []
    rw [Scanner.scan_append, hw]
    exact ⟨.bare, w, ws, by decide, rfl⟩
  | double ht hinner =>
    obtain ⟨w, ws, hw⟩ := scan_whole ht [] []
    have hopen : Scanner.step ⟨.bare, false, w, ws⟩ '"' = ⟨.double, false, w, ws⟩ := rfl
    rw [Scanner.scan_append, hw, Scanner.scan_cons, hopen, Scanner.scan_append, scan_inner hinner]
    exact ⟨.double, _, ws, by decide, rfl⟩

/-- **The open quotation** is the one that the machine has at the end. -/
theorem leaves_iff {t : Text} {q : Quote} :
    Leaves t q ↔ (Scanner.scan {} t).quote = q ∧ (Scanner.scan {} t).escaping = false := by
  constructor
  · intro h
    obtain ⟨w, ws, hscan⟩ := scan_leaves h
    rw [hscan]
    exact ⟨rfl, rfl⟩
  · rintro ⟨hquote, hescaping⟩
    rcases leaves_or_waits t with ⟨q', h⟩ | h
    · obtain ⟨w, ws, hscan⟩ := scan_leaves h
      rw [hscan] at hquote
      exact hquote ▸ h
    · obtain ⟨_, _, _, -, hscan⟩ := scan_waits h
      rw [hscan] at hescaping
      cases hescaping

/-- **A backslash waits** if the machine is in the middle of an escape at the end. -/
theorem waits_iff {t : Text} : Waits t ↔ (Scanner.scan {} t).escaping = true := by
  constructor
  · intro h
    obtain ⟨_, _, _, -, hscan⟩ := scan_waits h
    rw [hscan]
  · intro hescaping
    rcases leaves_or_waits t with ⟨q, h⟩ | h
    · cases hescaping.symm.trans (leaves_iff.mp h).2
    · exact h

instance (t : Text) (q : Quote) : Decidable (Leaves t q) := decidable_of_iff _ leaves_iff.symm

instance (t : Text) : Decidable (Waits t) := decidable_of_iff _ waits_iff.symm

end Quoting

/-! ## Joined lines -/

/-- What closes a quotation. -/
def Quote.closing : Quote → Text
  | .bare => []
  | .single => ['\'']
  | .double => ['"']

namespace Scanner

/-- The same state behind other words. -/
def behind (vs : List Text) (s : Scanner) : Scanner := { s with words := vs ++ s.words }

/-- Whatever is read, the words that are finished stay as they are. -/
theorem step_behind (vs : List Text) (s : Scanner) (c : Char) :
    (s.behind vs).step c = (s.step c).behind vs := by
  have hclose : (s.behind vs).close = s.close.behind vs := by
    unfold close behind
    split <;> simp
  obtain ⟨q, _ | _, w, ws⟩ := s
  · show read _ c = (read _ c).behind vs
    unfold read
    cases q with
    | bare => grind [behind, push]
    | single => grind [behind, push]
    | double => grind [behind, push]
  · show resolve _ c = (resolve _ c).behind vs
    unfold resolve
    grind [behind, push]

theorem scan_behind (vs : List Text) (s : Scanner) (line : Text) :
    (s.behind vs).scan line = (s.scan line).behind vs := by
  induction line generalizing s with
  | nil => rfl
  | cons c line ih => rw [scan_cons, scan_cons, step_behind, ih]

theorem finish_behind (vs : List Text) (s : Scanner) : (s.behind vs).finish = vs ++ s.finish := by
  unfold finish close behind push
  grind

end Scanner

namespace Line

open Quoting (Leaves Waits scan_leaves leaves_iff leaves_or_waits)

variable {a : Text} {q : Quote}

/-- **What closes the open quotation** takes the machine out of it, and adds nothing. -/
theorem scan_closing (q : Quote) (w : Text) (ws : List Text) :
    Scanner.scan ⟨q, false, w, ws⟩ q.closing = ⟨.bare, false, w, ws⟩ := by cases q <;> rfl

theorem words_closed (h : Leaves a q) : words (a ++ q.closing) = words a := by
  obtain ⟨w, ws, hscan⟩ := scan_leaves h
  rw [words, words, Scanner.scan_append, hscan, scan_closing, Quoting.finish_word,
    Quoting.finish_word]

/-- **Behind a closed line and a space** the machine starts again, with the words of that line. -/
theorem words_closed_append (h : Leaves a q) (b : Text) :
    words (a ++ q.closing ++ ' ' :: b) = words a ++ words b := by
  obtain ⟨w, ws, hscan⟩ := scan_leaves h
  have hwords : words a = ws ++ [w].filter (· ≠ []) := by
    rw [words, hscan, Quoting.finish_word]
  have hspace : Scanner.step ⟨.bare, false, w, ws⟩ ' ' = Scanner.behind (words a) {} := by
    rw [Quoting.step_space, hwords, Scanner.behind, List.append_nil]
  rw [words, Scanner.scan_append, Scanner.scan_append, hscan, scan_closing, Scanner.scan_cons, hspace,
    Scanner.scan_behind, Scanner.finish_behind]
  rfl

end Line

/-! ## Trimmed lines -/

namespace Quoting

open List (replicate)

variable {w : Text} {ws : List Text}

/-- Spaces in front of a line are not noticed. -/
theorem scan_leading_spaces (n : Nat) : Scanner.scan {} (replicate n ' ') = {} := by
  induction n with
  | zero => rfl
  | succ n ih =>
    rw [List.replicate_succ, Scanner.scan_cons]
    exact ih

/-- Spaces between two words do not count at the end of a line. -/
theorem finish_bare_spaces (n : Nat) (w : Text) (ws : List Text) :
    (Scanner.scan ⟨.bare, false, w, ws⟩ (replicate n ' ')).finish =
      Scanner.finish ⟨.bare, false, w, ws⟩ := by
  induction n generalizing w ws with
  | zero => rfl
  | succ n ih =>
    rw [List.replicate_succ, Scanner.scan_cons, step_space, ih, finish_word, finish_word]
    exact List.append_nil _

/-- Spaces in a quotation belong to its word. -/
theorem scan_quoted_spaces {q : Quote} (hq : q ≠ .bare) (n : Nat) :
    Scanner.scan ⟨q, false, w, ws⟩ (replicate n ' ') = ⟨q, false, w ++ replicate n ' ', ws⟩ := by
  cases q with
  | bare => exact absurd rfl hq
  | single =>
    refine scan_single ?_ w
    intro hmem
    exact absurd (List.eq_of_mem_replicate hmem) (by decide)
  | double =>
    have hinner : Inner (replicate n ' ') (replicate n ' ') := by
      induction n with
      | zero => exact .nil
      | succ n ih => exact .plain (by decide) (by decide) ih
    exact scan_inner hinner w

/-- Such a word is longer for them. -/
theorem finish_quoted_spaces_ne {q : Quote} (hq : q ≠ .bare) (n : Nat) (w : Text) (ws : List Text) :
    (Scanner.scan ⟨q, false, w, ws⟩ (replicate (n + 1) ' ')).finish ≠
      Scanner.finish ⟨q, false, w, ws⟩ := by
  intro heq
  have hlength := congrArg (fun vs : List Text => vs.flatten.length) heq
  rw [scan_quoted_spaces hq, finish_gathered, finish_gathered] at hlength
  simp only [Scanner.gathered, List.length_append, List.length_replicate] at hlength
  omega

/-- **A space that a backslash waits for** takes the place that the backslash would have at the end of the
    line, or stands behind it. -/
theorem finish_escaped_spaces_ne {q : Quote} (hq : q ≠ .single) (n : Nat) (w : Text) (ws : List Text) :
    (Scanner.scan ⟨q, true, w, ws⟩ (replicate (n + 1) ' ')).finish ≠
      Scanner.finish ⟨q, true, w, ws⟩ := by
  rw [finish_escaping, List.replicate_succ, Scanner.scan_cons]
  cases q with
  | bare =>
    rw [step_escaped, finish_bare_spaces, finish_word, finish_word]
    simp
  | single => exact absurd rfl hq
  | double =>
    -- inside double quotes the backslash stays, and the space is read like any other one
    have hstep : Scanner.step ⟨.double, true, w, ws⟩ ' ' =
        Scanner.step ⟨.double, false, w ++ ['\\'], ws⟩ ' ' := by
      rw [step_kept_in_double (by decide) (by decide), step_in_double (by decide) (by decide),
        List.append_assoc]
      rfl
    rw [hstep, ← Scanner.scan_cons, ← List.replicate_succ]
    exact finish_quoted_spaces_ne (by decide) n _ ws

/-- **Spaces at the end of a text** change nothing just if nothing is open there. -/
theorem finish_spaces_iff (t : Text) (n : Nat) :
    ((Scanner.scan {} t).scan (replicate n ' ')).finish = (Scanner.scan {} t).finish ↔
      n = 0 ∨ Leaves t .bare := by
  cases n with
  | zero => exact ⟨fun _ => .inl rfl, fun _ => rfl⟩
  | succ n =>
    rw [or_iff_right (Nat.succ_ne_zero n)]
    rcases leaves_or_waits t with ⟨q, h⟩ | h
    · obtain ⟨w, ws, hscan⟩ := scan_leaves h
      rw [leaves_iff, hscan]
      by_cases hq : q = .bare
      · subst hq
        exact ⟨fun _ => ⟨rfl, rfl⟩, fun _ => finish_bare_spaces (n + 1) w ws⟩
      · exact ⟨fun heq => absurd heq (finish_quoted_spaces_ne hq n w ws), fun h => absurd h.1 hq⟩
    · obtain ⟨q, w, ws, hq, hscan⟩ := scan_waits h
      rw [leaves_iff, hscan]
      exact ⟨fun heq => absurd heq (finish_escaped_spaces_ne hq n w ws), fun h => by cases h.2⟩

end Quoting

/-! ## Summary -/

namespace Line

open List (replicate)
open Quoting (Leaves Waits)

/-- **Lines put one behind the other.** At the end of a text where no backslash waits, one quotation is open
    and no other. What closes it changes no word of the text; and with a space and another text behind it,
    the words are those of the one and then those of the other. -/
theorem words_joined {a : Text} (h : ¬ Waits a) :
    ∃ q, (∀ q', Leaves a q' ↔ q' = q) ∧ words (a ++ q.closing) = words a ∧
      ∀ b, words (a ++ q.closing ++ ' ' :: b) = words a ++ words b := by
  obtain ⟨q, hq⟩ := (Quoting.leaves_or_waits a).resolve_right h
  refine ⟨q, ?_, words_closed hq, words_closed_append hq⟩
  intro q'
  constructor
  · intro hq'
    rw [← (Quoting.leaves_iff.mp hq').1, (Quoting.leaves_iff.mp hq).1]
  · rintro rfl
    exact hq

/-- The second of two backslashes in double quotes does not escape the quote that is put behind it. -/
theorem words_joined_backslashes :
    let a := "x\"y \\\\".toList
    ¬ Waits a ∧ Leaves a .double ∧ words (a ++ ['"']) = ["xy \\".toList] ∧
      words (a ++ ['"'] ++ ' ' :: "z'".toList) = ["xy \\".toList, "z".toList] := by
  intro a
  have hwaits : ¬ Waits a := by decide
  have hleaves : Leaves a .double := by decide
  obtain ⟨q, hq, hclosed, hjoined⟩ := words_joined hwaits
  obtain rfl := (hq .double).mp hleaves
  exact ⟨hwaits, hleaves, hclosed, hjoined _⟩

/-- **Trimming a line** that has only spaces around it leaves its words as they are just if there are no
    spaces at its end, or nothing is open where they begin. The command is the same then. -/
theorem trimmed_words_iff {line : Text} {m n : Nat}
    (h : line = replicate m ' ' ++ Text.trim line ++ replicate n ' ') :
    (words (Text.trim line) = words line ↔ n = 0 ∨ Leaves (Text.trim line) .bare) ∧
      (n = 0 ∨ Leaves (Text.trim line) .bare → Command.ofLine line = Command.ofWords (words line)) := by
  have hwords : words line = ((Scanner.scan {} (Text.trim line)).scan (replicate n ' ')).finish := by
    rw [words]
    conv => lhs; rw [h]
    rw [Scanner.scan_append, Scanner.scan_append, Quoting.scan_leading_spaces]
  have hiff : words (Text.trim line) = words line ↔ n = 0 ∨ Leaves (Text.trim line) .bare := by
    rw [hwords, eq_comm]
    exact Quoting.finish_spaces_iff (Text.trim line) n
  refine ⟨hiff, ?_⟩
  intro hends
  rw [Command.ofLine, hiff.mpr hends]

/-- A backslash and a space in quotes, with spaces around the line. -/
theorem trimmed_words_quoted :
    let line := " cd 'a\\ '  ".toList
    line = replicate 1 ' ' ++ Text.trim line ++ replicate 2 ' ' ∧ Leaves (Text.trim line) .bare ∧
      words (Text.trim line) = words line ∧
      Command.ofLine line = { name := "cd".toList, args := ["a\\ ".toList] } := by
  intro line
  have hline : line = replicate 1 ' ' ++ Text.trim line ++ replicate 2 ' ' := by decide
  have hends : Leaves (Text.trim line) .bare := by decide
  obtain ⟨hwords, hcommand⟩ := trimmed_words_iff hline
  exact ⟨hline, hends, hwords.mpr (.inr hends), (hcommand (.inr hends)).trans (by decide)⟩

/-- **A space that belongs to a word** is trimmed like any other, and its backslash is left behind. -/
theorem trimmed_word_changes :
    let line := "cd a\\ ".toList
    line = replicate 0 ' ' ++ Text.trim line ++ replicate 1 ' ' ∧ words line = ["cd".toList, "a ".toList] ∧
      words (Text.trim line) = ["cd".toList, "a\\".toList] ∧
      Command.ofLine line ≠ Command.ofWords (words line) := by
  decide

end Line

end CommandShell
