import CommandShell.Line.Scanner
import Mathlib.Data.List.Forall2

/-!
# `CommandShell.Proofs.Line.Quoting` — the quoting grammar, and the machine that reads it

`Line.words` is a machine with an open quote and a waiting backslash. This module says the same
without a machine: a line is a row of words, a word is a row of segments, and each segment has a
value. The two sides meet in `words_eq_values`, for every line and every way to read it.

## Contents
- **Grammar.** `Segment`, `Open` (what only the end of the line may leave unclosed), `Word`,
  `OpenWord` and `Reading`, each a relation between a text and its value.
- **Machine.** `scan_segment` and `scan_word`: from between two words, the machine adds exactly the
  value to the word at hand and is between segments again; `finish_open` is the same at the end.
  `Scanner.gathered` puts all that came through so far into one text (`finish_gathered`).
- **Existence.** `exists_reading`: a segment can be cut off any text (`segment_or_open`), so every
  line has a reading.
-/

namespace CommandShell

/-- What has come through so far, but for a backslash that waits. -/
def Scanner.gathered (s : Scanner) : Text := s.words.flatten ++ s.word

namespace Quoting

/-! ## The grammar -/

/-- A character that stands for itself outside quotes. -/
def IsBare (c : Char) : Prop := c ≠ ' ' ∧ c ≠ '\'' ∧ c ≠ '"' ∧ c ≠ '\\'

instance : DecidablePred IsBare := fun _ => inferInstanceAs (Decidable (_ ∧ _ ∧ _ ∧ _))

/-- What stands between double quotes, and its value. A backslash before a double quote or another
    backslash gives that character; any other backslash stands for itself. -/
inductive Inner : Text → Text → Prop where
  | nil : Inner [] []
  | escaped {c : Char} {t v : Text} : c = '"' ∨ c = '\\' → Inner t v →
      Inner ('\\' :: c :: t) (c :: v)
  | backslash {c : Char} {t v : Text} : c ≠ '"' → c ≠ '\\' → Inner (c :: t) v →
      Inner ('\\' :: c :: t) ('\\' :: v)
  | plain {c : Char} {t v : Text} : c ≠ '"' → c ≠ '\\' → Inner t v → Inner (c :: t) (c :: v)

/-- A segment of a word, and its value. -/
inductive Segment : Text → Text → Prop where
  | bare {c : Char} : IsBare c → Segment [c] [c]
  | escaped (c : Char) : Segment ['\\', c] [c]
  | single {t : Text} : '\'' ∉ t → Segment ('\'' :: (t ++ ['\''])) t
  | double {t v : Text} : Inner t v → Segment ('"' :: (t ++ ['"'])) v

/-- A segment that the end of the line cuts short, and its value: a quote left open, or a backslash
    outside single quotes with nothing after it. -/
inductive Open : Text → Text → Prop where
  | single {t : Text} : '\'' ∉ t → Open ('\'' :: t) t
  | double {t v : Text} : Inner t v → Open ('"' :: t) v
  | backslash : Open ['\\'] ['\\']
  | doubleBackslash {t v : Text} : Inner t v → Open ('"' :: (t ++ ['\\'])) (v ++ ['\\'])

/-- A word, a row of at least one segment, and its value. -/
inductive Word : Text → Text → Prop where
  | last {t v : Text} : Segment t v → Word t v
  | cons {t v t' v' : Text} : Segment t v → Word t' v' → Word (t ++ t') (v ++ v')

/-- A word whose last segment the end of the line cuts short, and its value. -/
inductive OpenWord : Text → Text → Prop where
  | last {t v : Text} : Open t v → OpenWord t v
  | cons {t v t' v' : Text} : Segment t v → OpenWord t' v' → OpenWord (t ++ t') (v ++ v')

/-- A line, and the values of its words in order: words with runs of spaces between them, around
    which more spaces may stand. -/
inductive Reading : Text → List Text → Prop where
  | nil : Reading [] []
  | space {t : Text} {vs : List Text} : Reading t vs → Reading (' ' :: t) vs
  | word {w v t : Text} {vs : List Text} : Word w v → Reading t vs →
      Reading (w ++ ' ' :: t) (v :: vs)
  | last {w v : Text} : Word w v → Reading w [v]
  | openLast {w v : Text} : OpenWord w v → Reading w [v]

/-! ## One character

The steps of the machine from a state written out, one lemma for each kind of character. -/

variable {w : Text} {ws : List Text}

theorem step_bare {c : Char} (h : IsBare c) :
    Scanner.step ⟨.bare, false, w, ws⟩ c = ⟨.bare, false, w ++ [c], ws⟩ := by
  obtain ⟨hspace, hsingle, hdouble, hbackslash⟩ := h
  simp [Scanner.step, Scanner.read, Scanner.push, hspace, hsingle, hdouble, hbackslash]

theorem step_escaped (c : Char) :
    Scanner.step ⟨.bare, true, w, ws⟩ c = ⟨.bare, false, w ++ [c], ws⟩ := by
  simp [Scanner.step, Scanner.resolve, Scanner.push]

theorem step_in_single {c : Char} (h : c ≠ '\'') :
    Scanner.step ⟨.single, false, w, ws⟩ c = ⟨.single, false, w ++ [c], ws⟩ := by
  simp [Scanner.step, Scanner.read, Scanner.push, h]

theorem step_in_double {c : Char} (hquote : c ≠ '"') (hbackslash : c ≠ '\\') :
    Scanner.step ⟨.double, false, w, ws⟩ c = ⟨.double, false, w ++ [c], ws⟩ := by
  simp [Scanner.step, Scanner.read, Scanner.push, hquote, hbackslash]

theorem step_escaped_in_double {c : Char} (h : c = '"' ∨ c = '\\') :
    Scanner.step ⟨.double, true, w, ws⟩ c = ⟨.double, false, w ++ [c], ws⟩ := by
  rcases h with rfl | rfl <;>
    simp [Scanner.step, Scanner.resolve, Scanner.push, Scanner.escapableInDouble]

theorem step_kept_in_double {c : Char} (hquote : c ≠ '"') (hbackslash : c ≠ '\\') :
    Scanner.step ⟨.double, true, w, ws⟩ c = ⟨.double, false, w ++ ['\\', c], ws⟩ := by
  simp [Scanner.step, Scanner.resolve, Scanner.push, Scanner.escapableInDouble, hquote, hbackslash]

/-- A space between words ends the word at hand, which counts if it is not empty. -/
theorem step_space :
    Scanner.step ⟨.bare, false, w, ws⟩ ' ' = ⟨.bare, false, [], ws ++ [w].filter (· ≠ [])⟩ := by
  by_cases h : w = []
  · simp [Scanner.step, Scanner.read, Scanner.close, h]
  · simp [Scanner.step, Scanner.read, Scanner.close, h]

/-- The end of the line ends the word at hand too, whatever quote is open. -/
theorem finish_word (q : Quote) :
    Scanner.finish ⟨q, false, w, ws⟩ = ws ++ [w].filter (· ≠ []) := by
  by_cases h : w = []
  · simp [Scanner.finish, Scanner.close, h]
  · simp [Scanner.finish, Scanner.close, h]

/-- At the end of the line, the words have all that has come through. -/
theorem finish_gathered (q : Quote) :
    (Scanner.finish ⟨q, false, w, ws⟩).flatten = Scanner.gathered ⟨q, false, w, ws⟩ := by
  rw [finish_word]
  by_cases hw : w = [] <;> simp [Scanner.gathered, hw]

/-- A backslash that the end of the line finds waiting belongs to the word. -/
theorem finish_escaping (q : Quote) :
    Scanner.finish ⟨q, true, w, ws⟩ = Scanner.finish ⟨q, false, w ++ ['\\'], ws⟩ := by
  simp [Scanner.finish, Scanner.close, Scanner.push]

/-! ## Runs of the machine

Each relation of the grammar adds its value to the word at hand. The induction follows the grammar;
the word and the words before it are arbitrary, since segments may abut without a space. -/

/-- **What stands between double quotes** adds its value, and the quotes stay open. -/
theorem scan_inner {t v : Text} (h : Inner t v) (w : Text) :
    Scanner.scan ⟨.double, false, w, ws⟩ t = ⟨.double, false, w ++ v, ws⟩ := by
  induction h generalizing w with
  | nil => simp
  | @escaped c t v hc _ ih =>
    have hopen : Scanner.step ⟨.double, false, w, ws⟩ '\\' = ⟨.double, true, w, ws⟩ := rfl
    rw [Scanner.scan_cons, Scanner.scan_cons, hopen, step_escaped_in_double hc, ih]
    simp
  | @backslash c t v hquote hbackslash _ ih =>
    -- the hypothesis starts one character later, so `c` is read here as the plain character it is
    have hopen : Scanner.step ⟨.double, false, w, ws⟩ '\\' = ⟨.double, true, w, ws⟩ := rfl
    have hc := ih (w ++ ['\\'])
    rw [Scanner.scan_cons, step_in_double hquote hbackslash] at hc
    rw [Scanner.scan_cons, Scanner.scan_cons, hopen, step_kept_in_double hquote hbackslash]
    simpa using hc
  | @plain c t v hquote hbackslash _ ih =>
    rw [Scanner.scan_cons, step_in_double hquote hbackslash, ih]
    simp

/-- **Text without a single quote** is added as it is, and the single quotes stay open. -/
theorem scan_single {t : Text} (h : '\'' ∉ t) (w : Text) :
    Scanner.scan ⟨.single, false, w, ws⟩ t = ⟨.single, false, w ++ t, ws⟩ := by
  induction t generalizing w with
  | nil => simp
  | cons c t ih =>
    rw [List.mem_cons, not_or] at h
    obtain ⟨hc, ht⟩ := h
    rw [Scanner.scan_cons, step_in_single (Ne.symm hc), ih ht]
    simp

/-- **A segment** adds its value and leaves the machine between segments. -/
theorem scan_segment {t v : Text} (h : Segment t v) (w : Text) :
    Scanner.scan ⟨.bare, false, w, ws⟩ t = ⟨.bare, false, w ++ v, ws⟩ := by
  cases h with
  | bare hc => rw [Scanner.scan_cons, step_bare hc, Scanner.scan_nil]
  | escaped c =>
    have hopen : Scanner.step ⟨.bare, false, w, ws⟩ '\\' = ⟨.bare, true, w, ws⟩ := rfl
    rw [Scanner.scan_cons, Scanner.scan_cons, hopen, step_escaped, Scanner.scan_nil]
  | single ht =>
    have hopen : Scanner.step ⟨.bare, false, w, ws⟩ '\'' = ⟨.single, false, w, ws⟩ := rfl
    rw [Scanner.scan_cons, hopen, Scanner.scan_append, scan_single ht]
    rfl
  | double hi =>
    have hopen : Scanner.step ⟨.bare, false, w, ws⟩ '"' = ⟨.double, false, w, ws⟩ := rfl
    rw [Scanner.scan_cons, hopen, Scanner.scan_append, scan_inner hi]
    rfl

/-- **A word** adds its value and leaves the machine between segments. -/
theorem scan_word {t v : Text} (h : Word t v) (w : Text) :
    Scanner.scan ⟨.bare, false, w, ws⟩ t = ⟨.bare, false, w ++ v, ws⟩ := by
  induction h generalizing w with
  | last hs => exact scan_segment hs w
  | cons hs _ ih => rw [Scanner.scan_append, scan_segment hs, ih, List.append_assoc]

/-- **A segment that the end of the line cuts short** has its value there. -/
theorem finish_open {t v : Text} (h : Open t v) (w : Text) :
    (Scanner.scan ⟨.bare, false, w, ws⟩ t).finish = ws ++ [w ++ v].filter (· ≠ []) := by
  have hdouble : Scanner.step ⟨.bare, false, w, ws⟩ '"' = ⟨.double, false, w, ws⟩ := rfl
  cases h with
  | single ht =>
    have hopen : Scanner.step ⟨.bare, false, w, ws⟩ '\'' = ⟨.single, false, w, ws⟩ := rfl
    rw [Scanner.scan_cons, hopen, scan_single ht, finish_word]
  | double hi => rw [Scanner.scan_cons, hdouble, scan_inner hi, finish_word]
  | backslash =>
    have hopen : Scanner.step ⟨.bare, false, w, ws⟩ '\\' = ⟨.bare, true, w, ws⟩ := rfl
    rw [Scanner.scan_cons, hopen, Scanner.scan_nil, finish_escaping, finish_word]
  | @doubleBackslash t v hi =>
    have hopen : Scanner.step ⟨.double, false, w ++ v, ws⟩ '\\' = ⟨.double, true, w ++ v, ws⟩ := rfl
    rw [Scanner.scan_cons, hdouble, Scanner.scan_append, scan_inner hi, Scanner.scan_cons, hopen,
      Scanner.scan_nil, finish_escaping, finish_word, List.append_assoc]

/-- **A word that the end of the line cuts short** has its value there. -/
theorem finish_openWord {t v : Text} (h : OpenWord t v) (w : Text) :
    (Scanner.scan ⟨.bare, false, w, ws⟩ t).finish = ws ++ [w ++ v].filter (· ≠ []) := by
  induction h generalizing w with
  | last ho => exact finish_open ho w
  | cons hs _ ih => rw [Scanner.scan_append, scan_segment hs, ih, List.append_assoc]

/-- **A line**, from between two words: its words are added in order, the empty ones left out. -/
theorem finish_reading {t : Text} {vs : List Text} (h : Reading t vs) (ws : List Text) :
    (Scanner.scan ⟨.bare, false, [], ws⟩ t).finish = ws ++ vs.filter (· ≠ []) := by
  induction h generalizing ws with
  | nil =>
    rw [Scanner.scan_nil, finish_word]
    rfl
  | space _ ih =>
    rw [Scanner.scan_cons, step_space]
    simpa using ih ws
  | @word w v t vs hw _ ih =>
    rw [Scanner.scan_append, scan_word hw, Scanner.scan_cons, step_space, ih, List.append_assoc,
      ← List.filter_append]
    rfl
  | last hw => rw [scan_word hw, finish_word, List.nil_append]
  | openLast hw => exact finish_openWord hw []

/-! ## Every line has a reading

Reading from the left, a segment can be cut off any text that starts with no space, unless the end
of the line comes first. The text left over is shorter, so the rest follows by its length. -/

/-- **Inside double quotes** a text goes on to its closing quote or to the end of the line, where a
    lone backslash may be left over. -/
theorem inner_split : ∀ s : Text, ∃ t v rest, s = t ++ rest ∧ Inner t v ∧
    (rest = [] ∨ rest = ['\\'] ∨ ∃ rest', rest = '"' :: rest')
  | [] => ⟨[], [], [], rfl, .nil, .inl rfl⟩
  | [c] => by
    by_cases hquote : c = '"'
    · exact ⟨[], [], [c], rfl, .nil, .inr (.inr ⟨[], by rw [hquote]⟩)⟩
    by_cases hbackslash : c = '\\'
    · exact ⟨[], [], [c], rfl, .nil, .inr (.inl (by rw [hbackslash]))⟩
    · exact ⟨[c], [c], [], rfl, .plain hquote hbackslash .nil, .inl rfl⟩
  | c :: d :: s => by
    by_cases hquote : c = '"'
    · exact ⟨[], [], c :: d :: s, rfl, .nil, .inr (.inr ⟨d :: s, by rw [hquote]⟩)⟩
    by_cases hbackslash : c = '\\'
    · -- a backslash takes the character after it along, whichever that is
      subst hbackslash
      obtain ⟨t, v, rest, rfl, ht, hrest⟩ := inner_split s
      by_cases hd : d = '"' ∨ d = '\\'
      · exact ⟨'\\' :: d :: t, d :: v, rest, rfl, .escaped hd ht, hrest⟩
      · rw [not_or] at hd
        exact ⟨'\\' :: d :: t, '\\' :: d :: v, rest, rfl,
          .backslash hd.1 hd.2 (.plain hd.1 hd.2 ht), hrest⟩
    · obtain ⟨t, v, rest, hs, ht, hrest⟩ := inner_split (d :: s)
      exact ⟨c :: t, c :: v, rest, by rw [hs]; rfl, .plain hquote hbackslash ht, hrest⟩

/-- **A segment can be cut off** any text that starts with no space, or the end of the line cuts it
    short. -/
theorem segment_or_open {c : Char} (hc : c ≠ ' ') (s : Text) :
    (∃ t v rest, c :: s = t ++ rest ∧ t ≠ [] ∧ Segment t v) ∨ ∃ v, Open (c :: s) v := by
  by_cases hsingle : c = '\''
  · subst hsingle
    by_cases hmem : '\'' ∈ s
    · obtain ⟨t, rest, rfl, ht⟩ := List.eq_append_cons_of_mem hmem
      exact .inl ⟨'\'' :: (t ++ ['\'']), t, rest, by simp, by simp, .single ht⟩
    · exact .inr ⟨s, .single hmem⟩
  by_cases hdouble : c = '"'
  · subst hdouble
    obtain ⟨t, v, rest, rfl, ht, hrest⟩ := inner_split s
    rcases hrest with rfl | rfl | ⟨rest, rfl⟩
    · exact .inr ⟨v, by simpa using Open.double ht⟩
    · exact .inr ⟨v ++ ['\\'], .doubleBackslash ht⟩
    · exact .inl ⟨'"' :: (t ++ ['"']), v, rest, by simp, by simp, .double ht⟩
  by_cases hbackslash : c = '\\'
  · subst hbackslash
    cases s with
    | nil => exact .inr ⟨['\\'], .backslash⟩
    | cons d s => exact .inl ⟨['\\', d], [d], s, rfl, by simp, .escaped d⟩
  · exact .inl ⟨[c], [c], s, rfl, by simp, .bare ⟨hc, hsingle, hdouble, hbackslash⟩⟩

/-- **A word can be cut off** any text that starts with no space: it goes on to the next space or to
    the end of the line, which may cut it short. -/
theorem word_or_open {c : Char} (hc : c ≠ ' ') (s : Text) :
    (∃ t v rest, c :: s = t ++ rest ∧ Word t v ∧ (rest = [] ∨ ∃ rest', rest = ' ' :: rest')) ∨
      ∃ v, OpenWord (c :: s) v := by
  rcases segment_or_open hc s with ⟨t, v, rest, hs, hne, ht⟩ | ⟨v, ho⟩
  · match rest with
    | [] => exact .inl ⟨t, v, [], hs, .last ht, .inl rfl⟩
    | d :: rest =>
      by_cases hd : d = ' '
      · exact .inl ⟨t, v, d :: rest, hs, .last ht, .inr ⟨rest, by rw [hd]⟩⟩
      · have hlt : rest.length < s.length := by
          have hlen := congrArg List.length hs
          have hpos := List.length_pos_iff.mpr hne
          simp only [List.length_cons, List.length_append] at hlen
          omega
        rcases word_or_open hd rest with ⟨t', v', rest', hs', ht', hrest'⟩ | ⟨v', ho'⟩
        · exact .inl ⟨t ++ t', v ++ v', rest', by rw [hs, hs', List.append_assoc], .cons ht ht',
            hrest'⟩
        · exact .inr ⟨v ++ v', by rw [hs]; exact .cons ht ho'⟩
  · exact .inr ⟨v, .last ho⟩
termination_by s.length

/-- **Every line has a reading.** -/
theorem exists_reading (s : Text) : ∃ vs, Reading s vs := by
  match s with
  | [] => exact ⟨[], .nil⟩
  | c :: s =>
    by_cases hc : c = ' '
    · obtain ⟨vs, h⟩ := exists_reading s
      exact ⟨vs, by rw [hc]; exact .space h⟩
    rcases word_or_open hc s with ⟨t, v, rest, hs, ht, rfl | ⟨rest, rfl⟩⟩ | ⟨v, ho⟩
    · exact ⟨[v], by rw [hs, List.append_nil]; exact .last ht⟩
    · have hlt : rest.length < s.length + 1 := by
        have hlen := congrArg List.length hs
        simp only [List.length_cons, List.length_append] at hlen
        omega
      obtain ⟨vs, h⟩ := exists_reading rest
      exact ⟨v :: vs, by rw [hs]; exact .word ht h⟩
    · exact ⟨[v], .openLast ho⟩
termination_by s.length

/-! ## Words written down

Any row of words can be written with any quoting of each, a space between two of them. -/

/-- Every text but the empty one has a quoting: a backslash before each character. -/
theorem exists_word {v : Text} (h : v ≠ []) : ∃ t, Word t v := by
  induction v with
  | nil => exact absurd rfl h
  | cons c v ih =>
    by_cases hv : v = []
    · exact ⟨['\\', c], by rw [hv]; exact .last (.escaped c)⟩
    · obtain ⟨t, ht⟩ := ih hv
      exact ⟨['\\', c] ++ t, .cons (.escaped c) ht⟩

/-- Words that are not empty have a quoting each. -/
theorem exists_quoting {vs : List Text} (h : ∀ v ∈ vs, v ≠ []) : ∃ ts, List.Forall₂ Word ts vs := by
  induction vs with
  | nil => exact ⟨[], .nil⟩
  | cons v vs ih =>
    obtain ⟨hv, hvs⟩ := List.forall_mem_cons.mp h
    obtain ⟨t, ht⟩ := exists_word hv
    obtain ⟨ts, hts⟩ := ih hvs
    exact ⟨t :: ts, .cons ht hts⟩

/-- Quoted words with single spaces between them read as their values. -/
theorem reading_of_words {ts vs : List Text} (h : List.Forall₂ Word ts vs) :
    Reading (List.intercalate [' '] ts) vs := by
  induction h with
  | nil => exact .nil
  | @cons t v ts vs ht hts ih =>
    cases hts with
    | nil => simpa [List.intercalate] using Reading.last ht
    | cons => exact .word ht ih

/-! ## The machine reads the grammar -/

/-- The words of a line are the values of any reading of it, the empty ones left out. -/
theorem words_of_reading {s : Text} {vs : List Text} (h : Reading s vs) :
    Line.words s = vs.filter (· ≠ []) :=
  finish_reading h []

/-- No word of a line is empty. -/
theorem ne_nil_of_mem_words {s w : Text} (h : w ∈ Line.words s) : w ≠ [] := by
  obtain ⟨vs, hreading⟩ := exists_reading s
  rw [words_of_reading hreading] at h
  simpa using (List.mem_filter.mp h).2

/-- Words with any quoting, a space between two of them, are split into just these words. -/
theorem words_of_quoting {ts vs : List Text} (h : List.Forall₂ Word ts vs) (hne : ∀ v ∈ vs, v ≠ []) :
    Line.words (List.intercalate [' '] ts) = vs := by
  rw [words_of_reading (reading_of_words h)]
  exact List.filter_eq_self.mpr fun v hv => decide_eq_true (hne v hv)

/-- **Splitting a line is reading its quoting.** Every line has a reading; every reading of a line
    has the line's words as its values, the empty ones left out; and words that are not empty, each
    with any quoting and joined by spaces, are split into just these words again. -/
theorem words_eq_values :
    (∀ s : Text, ∃ vs, Reading s vs) ∧
    (∀ (s : Text) (vs : List Text), Reading s vs → Line.words s = vs.filter (· ≠ [])) ∧
    (∀ v : Text, v ≠ [] → ∃ t, Word t v) ∧
    (∀ ts vs : List Text, List.Forall₂ Word ts vs → (∀ v ∈ vs, v ≠ []) →
      Line.words (List.intercalate [' '] ts) = vs) := by
  refine ⟨exists_reading, fun s vs => words_of_reading, fun v => exists_word, ?_⟩
  intro ts vs h hne
  exact words_of_quoting h hne

/-- Segments of all kinds in one line, with an empty word and a lone backslash at the end. -/
example : Line.words "e'c 'h\\o \"a\\\"\\b\" ''  x\\".toList =
    ["ec ho".toList, "a\"\\b".toList, "x\\".toList] := by decide

end Quoting

end CommandShell
