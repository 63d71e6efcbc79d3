import CommandShell.Editor.State
import CommandShell.Proofs.Text.Utf8

/-!
# `CommandShell.Proofs.Terminal` — an ideal terminal

The current line of a terminal of unbounded width, and what the characters sent to it do. A control
character that the terminal has no meaning for, and a step to the left of the first column, have no
result at all.

## Contents
- **Terminal.** `Screen.put` for one character, `Screen.feed` for a text, `Screen.replay` for bytes.
- **Lines.** `Screen.Shows` says that a screen shows a line and nothing else; there is only one such
  screen, `Screen.ofLine`.
- **Output of the editor.** `feed_plain`, `feed_lineBreak` and `feed_eraseEcho`.
-/

namespace CommandShell

/-- A text without control characters. -/
def Text.IsPlain (t : Text) : Prop := ∀ c ∈ t, Text.isControl c = false

instance (t : Text) : Decidable t.IsPlain := List.decidableBAll _ t

theorem Text.IsPlain.append {s t : Text} (hs : s.IsPlain) (ht : t.IsPlain) :
    Text.IsPlain (s ++ t) := fun c hc => (List.mem_append.mp hc).elim (hs c) (ht c)

/-! ## Terminal -/

/-- The current line: its cells, and the column that the next character goes to. -/
structure Screen where
  cell : Nat → Char
  cursor : Nat

namespace Screen

/-- What one character does. A line feed starts a blank line in the same column, and a carriage return
    goes to the first one, so that a fresh line takes both. -/
def put (s : Screen) (c : Char) : Option Screen :=
  if c = Text.bell then some s
  else if c = '\r' then some { s with cursor := 0 }
  else if c = '\n' then some { s with cell := fun _ => ' ' }
  else if c = Text.backspace then
    if s.cursor = 0 then none else some { s with cursor := s.cursor - 1 }
  else if Text.isControl c then none
  else some { cell := fun i => if i = s.cursor then c else s.cell i, cursor := s.cursor + 1 }

/-- What a text does, one character after the other. -/
def feed (s : Screen) (t : Text) : Option Screen := t.foldlM put s

/-- What bytes do, if they are UTF-8. -/
def replay (s : Screen) (bs : Bytes) : Option Screen := (Utf8.decode? bs).bind s.feed

theorem feed_cons (s : Screen) (c : Char) (t : Text) :
    s.feed (c :: t) = (s.put c).bind fun s' => s'.feed t := rfl

theorem feed_append (s : Screen) (t u : Text) :
    s.feed (t ++ u) = (s.feed t).bind fun s' => s'.feed u := by
  unfold feed
  rw [List.foldlM_append]
  rfl

theorem replay_encode (s : Screen) (t : Text) : s.replay (Utf8.encode t) = s.feed t := by
  rw [replay, Utf8.decode?_encode]
  rfl

/-! ## Lines -/

/-- The cursor is behind the line, left of it stands exactly the line, and all other cells are
    blank. -/
structure Shows (s : Screen) (row : Text) : Prop where
  cursor : s.cursor = row.length
  left : ∀ i, (h : i < row.length) → s.cell i = row[i]
  right : ∀ i, s.cursor ≤ i → s.cell i = ' '

/-- The screen that shows a line. -/
def ofLine (row : Text) : Screen := ⟨fun i => row.getD i ' ', row.length⟩

theorem ofLine_cell_left {row : Text} {i : Nat} (h : i < row.length) :
    (ofLine row).cell i = row[i] := by
  show row.getD i ' ' = row[i]
  rw [List.getD_eq_getElem?_getD, List.getElem?_eq_getElem h, Option.getD_some]

theorem ofLine_cell_right {row : Text} {i : Nat} (h : row.length ≤ i) :
    (ofLine row).cell i = ' ' := by
  show row.getD i ' ' = ' '
  rw [List.getD_eq_getElem?_getD, List.getElem?_eq_none h, Option.getD_none]

theorem shows_ofLine (row : Text) : (ofLine row).Shows row :=
  ⟨rfl, fun _ => ofLine_cell_left, fun _ => ofLine_cell_right⟩

/-- **One screen only** shows a line. -/
theorem Shows.eq_ofLine {s : Screen} {row : Text} (h : s.Shows row) : s = ofLine row := by
  obtain ⟨cell, cursor⟩ := s
  obtain rfl : cursor = row.length := h.cursor
  refine congrArg (Screen.mk · row.length) (funext fun i => ?_)
  show cell i = (ofLine row).cell i
  by_cases hi : i < row.length
  · rw [ofLine_cell_left hi]
    exact h.left i hi
  · rw [ofLine_cell_right (Nat.not_lt.mp hi)]
    exact h.right i (Nat.not_lt.mp hi)

/-! ## Output of the editor -/

/-- A character that is no control character takes the cell at the cursor. -/
theorem put_of_not_control (s : Screen) {c : Char} (hc : Text.isControl c = false) :
    s.put c = some ⟨fun i => if i = s.cursor then c else s.cell i, s.cursor + 1⟩ := by
  have hne : ∀ d, Text.isControl d = true → c ≠ d := by
    rintro d hd rfl
    rw [hc] at hd
    cases hd
  have hnot : ¬ Text.isControl c = true := by
    rw [hc]
    exact Bool.false_ne_true
  rw [put, if_neg (hne _ (by decide)), if_neg (hne _ (by decide)), if_neg (hne _ (by decide)),
    if_neg (hne _ (by decide)), if_neg hnot]

/-- Behind a line, the character is its next one. -/
theorem put_ofLine (row : Text) {c : Char} (hc : Text.isControl c = false) :
    (ofLine row).put c = some (ofLine (row ++ [c])) := by
  rw [put_of_not_control _ hc]
  have hcursor : (ofLine row).cursor + 1 = (row ++ [c]).length := by
    rw [List.length_append]
    rfl
  refine congrArg some (Shows.eq_ofLine ⟨hcursor, ?_, ?_⟩)
  · intro i hi
    show (if i = row.length then c else (ofLine row).cell i) = (row ++ [c])[i]
    by_cases heq : i = row.length
    · subst heq
      rw [if_pos rfl, List.getElem_concat_length rfl]
    · have hlt : i < row.length := by
        rw [List.length_append, List.length_singleton] at hi
        omega
      rw [if_neg heq, ofLine_cell_left hlt, List.getElem_append_left hlt]
  · intro i hi
    have hgt : row.length < i := hi
    show (if i = row.length then c else (ofLine row).cell i) = ' '
    rw [if_neg (Nat.ne_of_gt hgt), ofLine_cell_right (Nat.le_of_lt hgt)]

/-- **A plain text** is added to the line. -/
theorem feed_plain (row : Text) {t : Text} (ht : t.IsPlain) :
    (ofLine row).feed t = some (ofLine (row ++ t)) := by
  induction t generalizing row with
  | nil =>
    rw [List.append_nil]
    rfl
  | cons c t ih =>
    have hput := put_ofLine row (ht c List.mem_cons_self)
    rw [feed_cons, hput, Option.bind_some, ih _ fun d hd => ht d (List.mem_cons_of_mem c hd),
      List.append_assoc]
    rfl

/-- **A line break** starts a fresh line, whatever the screen shows. -/
theorem feed_lineBreak (s : Screen) : s.feed Editor.lineBreak = some (ofLine []) := rfl

/-- The bell changes nothing. -/
theorem feed_bell (s : Screen) : s.feed [Text.bell] = some s := rfl

/-- **An erasure** takes the last character off the line. -/
theorem feed_eraseEcho (row : Text) (c : Char) :
    (ofLine (row ++ [c])).feed Editor.eraseEcho = some (ofLine row) := by
  have hlength : (row ++ [c]).length = row.length + 1 := by
    rw [List.length_append]
    rfl
  have hscreen : ofLine (row ++ [c]) = ⟨(ofLine (row ++ [c])).cell, row.length + 1⟩ :=
    congrArg (Screen.mk _) hlength
  have hback (cell : Nat → Char) :
      (Screen.mk cell (row.length + 1)).put Text.backspace = some ⟨cell, row.length⟩ := rfl
  unfold Editor.eraseEcho
  -- back onto the character, a blank over it, back again
  rw [hscreen, feed_cons, hback, Option.bind_some, feed_cons, put_of_not_control _ (by decide),
    Option.bind_some, feed_cons, hback, Option.bind_some]
  refine congrArg some (Shows.eq_ofLine ⟨rfl, ?_, ?_⟩)
  · intro i hi
    show (if i = row.length then ' ' else (ofLine (row ++ [c])).cell i) = row[i]
    rw [if_neg (Nat.ne_of_lt hi), ofLine_cell_left (hlength ▸ Nat.lt_succ_of_lt hi),
      List.getElem_append_left hi]
  · intro i hi
    show (if i = row.length then ' ' else (ofLine (row ++ [c])).cell i) = ' '
    have hge : row.length ≤ i := hi
    by_cases heq : i = row.length
    · rw [if_pos heq]
    · rw [if_neg heq, ofLine_cell_right]
      rw [hlength]
      omega

end Screen

end CommandShell
