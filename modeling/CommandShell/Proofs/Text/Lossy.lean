import CommandShell.Proofs.Text.Front

/-!
# `CommandShell.Proofs.Text.Lossy` — bytes shown as text

Any bytes can be cut into characters and maximal invalid parts, and in one way only. That is the cut
behind the display of bytes, where each invalid part becomes one U+FFFD.

## Contents
- **Cuts.** `Cuts`, in words of the encoding of characters.
- **Chunks.** `chunks_of_front_char`, `chunks_of_front_invalid` and `chunks_of_front_short` unfold
  `chunks` at the front; `cuts_iff` says that it finds the only cut there is.
- **Text.** `decode?_eq_some_iff`, for bytes without invalid parts.
-/

namespace CommandShell

namespace Utf8

/-! ## Cuts -/

/-- Bytes cut from left to right: a character wherever one stands, else a maximal invalid part. -/
inductive Cuts : Bytes → List Chunk → Prop where
  | nil : Cuts [] []
  | char {c : Char} {rest : Bytes} {cs : List Chunk} (h : Cuts rest cs) :
      Cuts (encodeChar c ++ rest) (.char c :: cs)
  | invalid {part rest : Bytes} {cs : List Chunk} (hpart : MaximalInvalid part rest)
      (h : Cuts rest cs) : Cuts (part ++ rest) (.invalid part :: cs)

/-- An unfinished character at the end of some bytes is a maximal invalid part. -/
theorem Unfinished.maximalInvalid {bs : Bytes} (h : Unfinished bs) : MaximalInvalid bs [] := by
  refine ⟨?_, h.1, .inl h.begins, fun b after hrest => by cases hrest⟩
  rintro c ⟨more, hmore⟩
  have hshort := front_eq_short_iff.mpr (.inr h)
  rw [List.append_nil, eq_comm, ← front_eq_char_iff, hshort] at hmore
  cases hmore

/-- One of two maximal invalid parts at the front of the same bytes cannot be the shorter one. -/
theorem MaximalInvalid.length_le {part part' rest rest' : Bytes} (h : MaximalInvalid part rest)
    (h' : MaximalInvalid part' rest') (heq : part ++ rest = part' ++ rest') :
    part'.length ≤ part.length := by
  refine Nat.le_of_not_lt fun hlt => ?_
  obtain ⟨more, hmore⟩ : part <+: part' :=
    List.prefix_of_prefix_length_le ⟨rest, heq⟩ ⟨rest', rfl⟩ (Nat.le_of_lt hlt)
  cases more with
  | nil =>
    rw [List.append_nil] at hmore
    exact absurd hlt (by rw [hmore]; exact Nat.lt_irrefl _)
  | cons b more =>
    -- the longer part begins a character, and so does the shorter one with one more byte
    have hrest : rest = b :: (more ++ rest') := by
      rw [← hmore, List.append_assoc] at heq
      exact List.append_cancel_left heq
    have hbegins : Begins part' := by
      refine h'.begins.resolve_right fun hone => ?_
      have hpos := List.length_pos_iff.mpr h.nonempty
      omega
    exact h.maximal b _ hrest (hbegins.of_isPrefix ⟨more, by rw [← hmore]; simp⟩)

/-- There is one maximal invalid part at the front. -/
theorem MaximalInvalid.unique {part part' rest rest' : Bytes} (h : MaximalInvalid part rest)
    (h' : MaximalInvalid part' rest') (heq : part ++ rest = part' ++ rest') :
    part = part' ∧ rest = rest' :=
  List.append_inj heq (Nat.le_antisymm (h'.length_le h heq.symm) (h.length_le h' heq))

/-! ## Chunks -/

/-- An invalid part in front is the first chunk. -/
theorem chunks_of_front_invalid {bs part rest : Bytes} (h : front bs = .invalid part rest) :
    chunks bs = .invalid part :: chunks rest := by
  rw [chunks]
  split
  · next heq => rw [h] at heq; cases heq
  · next heq =>
    rw [h] at heq
    cases heq
    rfl
  · next heq => rw [h] at heq; cases heq

/-- An unfinished character is the last chunk. -/
theorem chunks_of_front_short {bs : Bytes} (h : front bs = .short) :
    chunks bs = if bs = [] then [] else [.invalid bs] := by
  rw [chunks]
  split
  · next heq => rw [h] at heq; cases heq
  · next heq => rw [h] at heq; cases heq
  · rfl

@[simp] theorem chunks_nil : chunks [] = [] := chunks_of_front_short rfl

/-- A maximal invalid part in front is the first chunk, also at the end of the bytes. -/
theorem MaximalInvalid.chunks_eq {part rest : Bytes} (h : MaximalInvalid part rest) :
    chunks (part ++ rest) = .invalid part :: chunks rest := by
  cases hfront : front (part ++ rest) with
  | char c after => exact absurd ⟨after, (front_eq_char_iff.mp hfront).symm⟩ (h.noChar c)
  | invalid part' rest' =>
    obtain ⟨rfl, rfl⟩ :=
      h.unique (maximalInvalid_of_front hfront) (eq_append_of_front_invalid hfront)
    exact chunks_of_front_invalid hfront
  | short =>
    -- all that is left is an unfinished character, and the part is the whole of it
    have hne : part ++ rest ≠ [] := fun hnil => h.nonempty (List.append_eq_nil_iff.mp hnil).1
    have hunfinished := (front_eq_short_iff.mp hfront).resolve_left hne
    obtain ⟨hpart, hrest⟩ :=
      h.unique hunfinished.maximalInvalid (List.append_nil (part ++ rest)).symm
    rw [chunks_of_front_short hfront, if_neg hne, ← hpart, hrest, chunks_nil]

/-- The chunks of some bytes are a cut of them. -/
theorem cuts_chunks (bs : Bytes) : Cuts bs (chunks bs) := by
  induction bs using chunks.induct with
  | case1 bs c rest hfront ih =>
    rw [chunks_of_front_char hfront, front_eq_char_iff.mp hfront]
    exact .char ih
  | case2 bs part rest hfront ih =>
    rw [chunks_of_front_invalid hfront]
    conv => arg 1; rw [eq_append_of_front_invalid hfront]
    exact .invalid (maximalInvalid_of_front hfront) ih
  | case3 =>
    rw [chunks_nil]
    exact .nil
  | case4 bs hfront hne =>
    have hunfinished := (front_eq_short_iff.mp hfront).resolve_left hne
    have hcut := Cuts.invalid hunfinished.maximalInvalid .nil
    rw [List.append_nil] at hcut
    rwa [chunks_of_front_short hfront, if_neg hne]

/-- **There is one cut**, and the chunks are it. -/
theorem cuts_iff {bs : Bytes} {cs : List Chunk} : Cuts bs cs ↔ cs = chunks bs := by
  constructor
  · intro h
    induction h with
    | nil => rw [chunks_nil]
    | char _ ih => rw [chunks_of_front_char (front_encodeChar _ _), ih]
    | invalid hpart _ ih => rw [hpart.chunks_eq, ih]
  · rintro rfl
    exact cuts_chunks bs

/-! ## Bytes that are text -/

/-- Bytes of which each part is a character are the bytes of these characters. -/
theorem Cuts.eq_encode {bs : Bytes} {cs : List Chunk} (h : Cuts bs cs) {t : Text}
    (ht : cs.mapM Chunk.char? = some t) : bs = encode t := by
  induction h generalizing t with
  | nil =>
    cases ht
    rfl
  | @char c rest cs _ ih =>
    rw [List.mapM_cons] at ht
    obtain ⟨d, hd, hmore⟩ := Option.bind_eq_some_iff.mp ht
    obtain ⟨more, htail, heq⟩ := Option.bind_eq_some_iff.mp hmore
    cases hd
    cases heq
    rw [encode_cons, ih htail]
  | invalid =>
    rw [List.mapM_cons] at ht
    cases ht

/-- **Bytes are read as a text** if they are the bytes of this text. -/
theorem decode?_eq_some_iff {bs : Bytes} {t : Text} : decode? bs = some t ↔ bs = encode t := by
  constructor
  · exact (cuts_chunks bs).eq_encode
  · rintro rfl
    exact decode?_encode t

end Utf8

end CommandShell
