import CommandShell.Line.Command
import Mathlib.Data.List.Induction

/-!
# `CommandShell.Proofs.Line.Pieces` — words and redirections of a command

A list of words is cut into plain words and redirections in one way, and the command depends only on
the order of the ones and on the order of the others.

## Contents
- **Cuts.** `Operator`, the six operator words, and `Splits`; `splits_iff` says that `Line.pieces` is
  the only way to cut.
- **Commands.** `Command.ofParts` makes a command of plain words and redirections apart;
  `ofPieces_eq_ofParts` says that pieces added one by one make the same command.
- **Summary.** `Command.ofWords_eq_ofParts`.
-/

namespace CommandShell

namespace Line

/-! ## Cuts -/

/-- The operator words, each with its stream and whether the file is appended to. -/
inductive Operator : Text → Stream → Bool → Prop where
  | out : Operator ['>'] .out false
  | numberedOut : Operator ['1', '>'] .out false
  | appendOut : Operator ['>', '>'] .out true
  | numberedAppendOut : Operator ['1', '>', '>'] .out true
  | err : Operator ['2', '>'] .err false
  | appendErr : Operator ['2', '>', '>'] .err true

/-- Words cut from left to right. An operator takes the next word as its target, whatever that word
    is; where there is no next word, the operator is a plain word itself. -/
inductive Splits : List Text → List Piece → Prop where
  | nil : Splits [] []
  | redirection {operator target : Text} {rest : List Text} {ps : List Piece} {stream : Stream}
      {append : Bool} (h : Operator operator stream append) (hrest : Splits rest ps) :
      Splits (operator :: target :: rest)
        (.redirection ⟨stream, append, Utf8.encode target⟩ :: ps)
  | word {w : Text} {rest : List Text} {ps : List Piece}
      (h : ∀ stream append, ¬ Operator w stream append) (hrest : Splits rest ps) :
      Splits (w :: rest) (.word w :: ps)
  | lastOperator {operator : Text} {stream : Stream} {append : Bool}
      (h : Operator operator stream append) : Splits [operator] [.word operator]

theorem operator?_eq_some_iff {w : Text} {stream : Stream} {append : Bool} :
    Redirection.operator? w = some (stream, append) ↔ Operator w stream append := by
  constructor
  · intro h
    unfold Redirection.operator? at h
    split at h
    · next hw =>
      cases h
      rcases hw with rfl | rfl
      · exact .out
      · exact .numberedOut
    split at h
    · next hw =>
      cases h
      rcases hw with rfl | rfl
      · exact .appendOut
      · exact .numberedAppendOut
    split at h
    · next hw =>
      cases h
      exact hw ▸ .err
    split at h
    · next hw =>
      cases h
      exact hw ▸ .appendErr
    · cases h
  · intro h
    cases h <;> decide

theorem operator?_eq_none_iff {w : Text} :
    Redirection.operator? w = none ↔ ∀ stream append, ¬ Operator w stream append := by
  constructor
  · intro h stream append hoperator
    rw [operator?_eq_some_iff.mpr hoperator] at h
    cases h
  · intro h
    cases hw : Redirection.operator? w with
    | none => rfl
    | some found => exact absurd (operator?_eq_some_iff.mp hw) (h found.1 found.2)

/-- An operator with a word behind it is a redirection. -/
theorem pieces_of_operator {operator : Text} {stream : Stream} {append : Bool}
    (h : Operator operator stream append) (target : Text) (rest : List Text) :
    pieces (operator :: target :: rest) =
      .redirection ⟨stream, append, Utf8.encode target⟩ :: pieces rest := by
  rw [pieces, operator?_eq_some_iff.mpr h]

/-- Any other word is plain. -/
theorem pieces_of_word {w : Text} (h : ∀ stream append, ¬ Operator w stream append)
    (rest : List Text) : pieces (w :: rest) = .word w :: pieces rest := by
  cases rest with
  | nil => rfl
  | cons t rest => rw [pieces, operator?_eq_none_iff.mpr h]

theorem splits_pieces (ws : List Text) : Splits ws (pieces ws) := by
  induction ws using pieces.induct with
  | case1 => exact .nil
  | case2 w =>
    rw [pieces]
    by_cases h : ∃ stream append, Operator w stream append
    · obtain ⟨stream, append, hoperator⟩ := h
      exact .lastOperator hoperator
    · exact .word (fun stream append hoperator => h ⟨stream, append, hoperator⟩) .nil
  | case3 w t rest stream append hw ih =>
    have hoperator := operator?_eq_some_iff.mp hw
    rw [pieces_of_operator hoperator]
    exact .redirection hoperator ih
  | case4 w t rest hw ih =>
    have hplain := operator?_eq_none_iff.mp hw
    rw [pieces_of_word hplain]
    exact .word hplain ih

/-- **There is one way** to cut words into pieces. -/
theorem splits_iff {ws : List Text} {ps : List Piece} : Splits ws ps ↔ ps = pieces ws := by
  constructor
  · intro h
    induction h with
    | nil => rfl
    | redirection hoperator _ ih => rw [pieces_of_operator hoperator, ih]
    | word hplain _ ih => rw [pieces_of_word hplain, ih]
    | lastOperator _ => rfl
  · rintro rfl
    exact splits_pieces ws

end Line

/-! ## Commands -/

/-- The plain word that a piece is. -/
def Piece.word? : Piece → Option Text
  | .word w => some w
  | .redirection _ => none

/-- The redirection that a piece is. -/
def Piece.redirection? : Piece → Option Redirection
  | .word _ => none
  | .redirection r => some r

namespace Command

/-- The target of the last redirection of a stream. -/
def lastTarget? (rs : List Redirection) (stream : Stream) : Option Path :=
  (rs.filter fun r => r.stream = stream).getLast?.map Redirection.target

/-- The command of plain words and redirections: its name is the first word that is not empty, its
    arguments are all words behind that one, and the last redirections decide. -/
def ofParts (ws : List Text) (rs : List Redirection) : Command where
  name := (ws.find? (!·.isEmpty)).getD []
  args := (ws.dropWhile (·.isEmpty)).tail
  stdout := lastTarget? rs .out
  stderr := lastTarget? rs .err
  append := (rs.getLast?.map Redirection.append).getD false

/-- Words are either all empty, or one of them is the name and the others behind it are arguments. -/
theorem all_empty_or_name (ws : List Text) :
    ws.find? (!·.isEmpty) = none ∧ ws.dropWhile (·.isEmpty) = [] ∨
      ∃ name args, name ≠ [] ∧ ws.find? (!·.isEmpty) = some name ∧
        ws.dropWhile (·.isEmpty) = name :: args := by
  induction ws with
  | nil => exact .inl ⟨rfl, rfl⟩
  | cons w ws ih =>
    cases w with
    | nil => exact ih
    | cons c w => exact .inr ⟨c :: w, ws, List.cons_ne_nil c w, rfl, rfl⟩

/-- One more word is added. -/
theorem ofParts_concat_word (ws : List Text) (w : Text) (rs : List Redirection) :
    ofParts (ws ++ [w]) rs = (ofParts ws rs).addWord w := by
  unfold addWord ofParts
  rw [List.find?_append, List.dropWhile_append]
  rcases all_empty_or_name ws with ⟨hname, hargs⟩ | ⟨name, args, hne, hname, hargs⟩
  · -- there is no name yet, and an empty word does not become one
    rw [hname, hargs]
    cases w <;> rfl
  · rw [hname, hargs]
    exact (if_neg hne).symm

/-- One more redirection is added. -/
theorem ofParts_concat_redirection (ws : List Text) (rs : List Redirection) (r : Redirection) :
    ofParts ws (rs ++ [r]) = (ofParts ws rs).addRedirection r := by
  obtain ⟨stream, append, target⟩ := r
  cases stream <;> simp [ofParts, addRedirection, lastTarget?]

/-- **Pieces added one by one** make the command of their words and redirections. -/
theorem ofPieces_eq_ofParts (ps : List Piece) :
    ofPieces ps = ofParts (ps.filterMap Piece.word?) (ps.filterMap Piece.redirection?) := by
  induction ps using List.reverseRecOn with
  | nil => rfl
  | append_singleton ps p ih =>
    have hfold : ofPieces (ps ++ [p]) = (ofPieces ps).add p := by
      rw [ofPieces, List.foldl_append]
      rfl
    rw [hfold, ih, List.filterMap_append, List.filterMap_append]
    cases p with
    | word w =>
      have hredirections : List.filterMap Piece.redirection? [.word w] = [] := rfl
      have hwords : List.filterMap Piece.word? [.word w] = [w] := rfl
      rw [hredirections, List.append_nil, hwords, ofParts_concat_word]
      rfl
    | redirection r =>
      have hredirections : List.filterMap Piece.redirection? [.redirection r] = [r] := rfl
      have hwords : List.filterMap Piece.word? [.redirection r] = [] := rfl
      rw [hredirections, hwords, List.append_nil, ofParts_concat_redirection]
      rfl

/-! ## Summary -/

/-- **Every word has one place in the command.** There is one way to cut words into plain words and
    redirections; the command is that of its words in order and of its redirections in order, so it
    does not matter where redirections stand among the words. -/
theorem ofWords_eq_ofParts :
    (∀ ws, ∃ ps, (∀ qs, Line.Splits ws qs ↔ qs = ps) ∧
      ofWords ws = ofParts (ps.filterMap Piece.word?) (ps.filterMap Piece.redirection?)) ∧
      ∀ ws vs ps qs, Line.Splits ws ps → Line.Splits vs qs →
        ps.filterMap Piece.word? = qs.filterMap Piece.word? →
        ps.filterMap Piece.redirection? = qs.filterMap Piece.redirection? →
        ofWords ws = ofWords vs := by
  refine ⟨fun ws => ⟨Line.pieces ws, fun _ => Line.splits_iff, ofPieces_eq_ofParts _⟩, ?_⟩
  intro ws vs ps qs hws hvs hwords hredirections
  rw [Line.splits_iff] at hws hvs
  subst hws hvs
  rw [ofWords, ofWords, ofPieces_eq_ofParts, ofPieces_eq_ofParts, hwords, hredirections]

/-- Operators in a row: the second is the target of the first, and the last word is plain. -/
example : ofWords ["".toList, ">".toList, "2>".toList, "a".toList, "2>>".toList] =
    { name := "a".toList, args := ["2>>".toList], stdout := some (Utf8.encode "2>".toList) } := by
  decide

end Command

end CommandShell
