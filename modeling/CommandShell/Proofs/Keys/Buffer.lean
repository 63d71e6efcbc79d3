import CommandShell.Proofs.Text.Lossy

/-!
# `CommandShell.Proofs.Keys.Buffer` — keys are what the bytes show

The keys of a stream are the characters and invalid parts that its bytes are cut into, but for a
character that is unfinished at the very end. A reader that keeps its undecoded bytes in a buffer,
and looks at all of them again with each byte, finds the same keys; its buffer never holds more than
one whole sequence.

## Contents
- **Keys.** `Decoder.keys`; `finds_run` tells what the decoder makes of the front of its bytes, and
  `chunks_eq_keys` relates keys and chunks.
- **Texts.** `keys_encode`, and `keys_append_encode` for a text that is typed behind anything else.
- **Buffers.** `Buffer.Step` and `Buffer.Reaches`; `Buffer.Reaches.bounded` for what a buffer holds,
  `Buffer.Reaches.keys_eq` for the keys that it delivers, and `Buffer.reaches_finished` for its end.
- **Summary.** `keys_eq_lossy`.
-/

namespace CommandShell

open Utf8

/-- The chunk of bytes that a key is made of. -/
def Key.chunk : Key → Chunk
  | .char c => .char c
  | .invalid part => .invalid part

@[simp] theorem Key.shown_chunk (k : Key) : k.chunk.shown = k.typed := by cases k <;> rfl

namespace Decoder

/-! ## Keys -/

/-- The keys of some bytes. -/
def keys (bs : Bytes) : List Key := (idle.run bs).1

/-- The bytes behind the last key, which make no key yet. -/
def unread (bs : Bytes) : Bytes := (idle.run bs).2.pending

/-- What the decoder delivers for bytes that start in this way, and what it holds back. -/
def Finds (delivered : List Key × Decoder) (bs : Bytes) : Front → Prop
  | .char c rest => delivered = (.char c :: keys rest, (idle.run rest).2)
  | .invalid part rest => delivered = (.invalid part :: keys rest, (idle.run rest).2)
  | .short => delivered.1 = [] ∧ delivered.2.pending = bs

/-- A sequence in progress becomes what stands at the front of all its bytes. -/
theorem finds_run_within {l : Lead} {seen : Bytes} (h : l.Stands seen) (bs : Bytes) :
    Finds ((within seen l).run bs) (seen ++ bs) (front (seen ++ bs)) := by
  induction bs generalizing l seen with
  | nil =>
    rw [List.append_nil, h.front_eq_short]
    exact ⟨rfl, rfl⟩
  | cons b bs ih =>
    rw [run_cons]
    by_cases hb : l.admits b = true
    · have hassoc : seen ++ b :: bs = seen ++ [b] ++ bs := by simp
      rw [push, if_pos hb]
      by_cases hlast : l.missing = 1
      · -- the character is complete
        have hzero : (l.extend b).missing = 0 := by rw [Lead.extend_missing, hlast]
        rw [hassoc, ← h.last hb hlast, front_encodeChar]
        dsimp only
        rw [if_pos hzero]
        rfl
      · have hmore : (l.extend b).missing ≠ 0 := by
          have hmissing := h.proper.missing
          rw [Lead.extend_missing]
          omega
        have hnext := ih (h.step hb hlast)
        rw [hassoc]
        dsimp only
        rw [if_neg hmore]
        exact hnext
    · -- what has been seen is broken off, and the byte is looked at again
      rw [h.front_eq_invalid hb, push, if_neg hb]
      rfl

/-- **The decoder finds what stands at the front.** -/
theorem finds_run (bs : Bytes) : Finds (idle.run bs) bs (front bs) := by
  cases bs with
  | nil => exact ⟨rfl, rfl⟩
  | cons b bs =>
    rw [run_cons, push]
    by_cases hb : b < 0x80
    · rw [front, if_pos hb, start_ascii hb]
      rfl
    · cases hlead : lead? b with
      | none =>
        rw [front, if_neg hb, hlead, start, if_neg hb, hlead]
        rfl
      | some l =>
        rw [start, if_neg hb, hlead]
        exact finds_run_within (stands_of_lead? hb hlead) bs

/-- **A character in front** is the first key. -/
theorem keys_of_front_char {bs rest : Bytes} {c : Char} (h : front bs = .char c rest) :
    keys bs = .char c :: keys rest ∧ unread bs = unread rest := by
  have hfinds := finds_run bs
  rw [h, Finds] at hfinds
  unfold unread
  rw [keys, hfinds]
  exact ⟨rfl, rfl⟩

/-- **An invalid part in front** is the first key. -/
theorem keys_of_front_invalid {bs part rest : Bytes} (h : front bs = .invalid part rest) :
    keys bs = .invalid part :: keys rest ∧ unread bs = unread rest := by
  have hfinds := finds_run bs
  rw [h, Finds] at hfinds
  unfold unread
  rw [keys, hfinds]
  exact ⟨rfl, rfl⟩

/-- **An unfinished character** makes no key. -/
theorem keys_of_front_short {bs : Bytes} (h : front bs = .short) : keys bs = [] ∧ unread bs = bs := by
  have hfinds := finds_run bs
  rw [h, Finds] at hfinds
  exact hfinds

/-- **The chunks of some bytes** are their keys, and what is unread at the end. -/
theorem chunks_eq_keys (bs : Bytes) :
    chunks bs = (keys bs).map Key.chunk ++
      if unread bs = [] then [] else [.invalid (unread bs)] := by
  induction bs using chunks.induct with
  | case1 bs c rest hfront ih =>
    obtain ⟨hkeys, hunread⟩ := keys_of_front_char hfront
    rw [chunks_of_front_char hfront, hkeys, hunread, ih]
    rfl
  | case2 bs part rest hfront ih =>
    obtain ⟨hkeys, hunread⟩ := keys_of_front_invalid hfront
    rw [chunks_of_front_invalid hfront, hkeys, hunread, ih]
    rfl
  | case3 => rw [chunks_nil]; rfl
  | case4 bs hfront hne =>
    obtain ⟨hkeys, hunread⟩ := keys_of_front_short hfront
    rw [chunks_of_front_short hfront, hkeys, hunread]
    rfl

/-- What is unread at the end is an unfinished character, if it is anything. -/
theorem unread_eq_nil_or_unfinished (bs : Bytes) : unread bs = [] ∨ Unfinished (unread bs) := by
  induction bs using chunks.induct with
  | case1 bs c rest hfront ih => rwa [(keys_of_front_char hfront).2]
  | case2 bs part rest hfront ih => rwa [(keys_of_front_invalid hfront).2]
  | case3 => exact .inl rfl
  | case4 bs hfront hne =>
    rw [(keys_of_front_short hfront).2]
    exact front_eq_short_iff.mp hfront

/-- Only no bytes at all leave neither a key nor anything unread. -/
theorem eq_nil_of_keys_eq_nil {bs : Bytes} (hkeys : keys bs = []) (hunread : unread bs = []) :
    bs = [] := by
  have hcut := cuts_chunks bs
  rw [chunks_eq_keys, hkeys, hunread, if_pos rfl] at hcut
  cases hcut
  rfl

/-- The last key is no unfinished character if nothing is unread: such a part would be unread. -/
theorem not_unfinished_of_getLast? {bs part : Bytes} (hunread : unread bs = [])
    (h : (keys bs).getLast? = some (.invalid part)) : ¬ Unfinished part := by
  induction bs using chunks.induct with
  | case1 bs c rest hfront ih =>
    obtain ⟨hkeys, hunread'⟩ := keys_of_front_char hfront
    rw [hunread'] at hunread
    rw [hkeys] at h
    cases hrest : keys rest with
    | nil =>
      rw [hrest] at h
      cases h
    | cons k ks =>
      rw [hrest, List.getLast?_cons_cons] at h
      exact ih hunread (hrest ▸ h)
  | case2 bs first rest hfront ih =>
    obtain ⟨hkeys, hunread'⟩ := keys_of_front_invalid hfront
    rw [hunread'] at hunread
    rw [hkeys] at h
    cases hrest : keys rest with
    | nil =>
      -- the part is all there is, and it is not unfinished
      rw [hrest] at h
      cases h
      intro hunfinished
      have hwhole := eq_append_of_front_invalid hfront
      rw [eq_nil_of_keys_eq_nil hrest hunread, List.append_nil] at hwhole
      rw [hwhole, front_eq_short_iff.mpr (.inr hunfinished)] at hfront
      cases hfront
    | cons k ks =>
      rw [hrest, List.getLast?_cons_cons] at h
      exact ih hunread (hrest ▸ h)
  | case3 => cases h
  | case4 bs hfront hne =>
    rw [(keys_of_front_short hfront).1] at h
    cases h

/-! ## Texts -/

/-- A text is read in full: nothing is held back behind it. -/
theorem run_encode (t : Text) : idle.run (encode t) = (t.map .char, .idle) := by
  induction t with
  | nil => rfl
  | cons c t ih =>
    have hfinds := finds_run (encode (c :: t))
    rw [encode_cons, front_encodeChar, Finds, keys, ih] at hfinds
    exact hfinds

/-- **The keys of a text** are its characters. -/
theorem keys_encode (t : Text) : keys (encode t) = t.map .char := congrArg Prod.fst (run_encode t)

/-- The first byte of a character never continues a sequence. -/
theorem not_admits_of_encodeChar {l : Lead} (hl : l.Proper) {c : Char} {b : UInt8} {bs : Bytes}
    (h : encodeChar c = b :: bs) : ¬ l.admits b = true := by
  intro hadmits
  obtain ⟨hge, hle⟩ := Lead.admits_iff.mp hadmits
  have hlow := hl.low
  have hhigh := hl.high
  have hfront := front_encodeChar c []
  have hnot : ¬ b < 0x80 := by
    simp only [UInt8.lt_iff_toNat_lt, UInt8.reduceToNat]
    omega
  rw [List.append_nil, h, front, if_neg hnot] at hfront
  cases hlead : lead? b with
  | none =>
    rw [hlead] at hfront
    cases hfront
  | some lead =>
    have hbyte := (lead?_announces hlead).byte
    omega

/-- A sequence that a character breaks off is delivered before it. -/
theorem run_encode_of_proper {d : Decoder} (hd : d.Proper) (c : Char) (t : Text) :
    (d.run (encode (c :: t))).1 = d.broken ++ keys (encode (c :: t)) := by
  cases d with
  | idle => rfl
  | within seen lead =>
    cases hc : encodeChar c with
    | nil =>
      have hfront := front_encodeChar c []
      rw [hc] at hfront
      cases hfront
    | cons b bs =>
      rw [encode_cons, hc, List.cons_append, run_cons, push,
        if_neg (not_admits_of_encodeChar hd hc)]
      rfl

theorem run_proper {d : Decoder} (hd : d.Proper) (bs : Bytes) : (d.run bs).2.Proper := by
  induction bs generalizing d with
  | nil => exact hd
  | cons b bs ih => exact ih (push_proper hd b)

/-- **A text typed behind anything** is read in full: its characters are the last keys. -/
theorem keys_append_encode (bs : Bytes) (t : Text) :
    ∃ earlier, keys (bs ++ encode t) = earlier ++ t.map .char := by
  cases t with
  | nil => exact ⟨_, (List.append_nil _).symm⟩
  | cons c t =>
    refine ⟨keys bs ++ (idle.run bs).2.broken, ?_⟩
    rw [keys, run_append, run_encode_of_proper (run_proper (d := .idle) trivial bs), keys_encode,
      List.append_assoc]
    rfl

end Decoder

/-! ## Buffers -/

/-- A reader that keeps the bytes it has not decoded yet. -/
structure Buffer where
  pending : Bytes
  /-- The bytes that are still to come. -/
  input : Bytes

namespace Buffer

/-- The key at the front of the pending bytes, and the bytes behind it. -/
def key? (pending : Bytes) : Option (Key × Bytes) :=
  match front pending with
  | .char c rest => some (.char c, rest)
  | .invalid part rest => some (.invalid part, rest)
  | .short => none

/-- One action of the reader, with the key that it delivers. -/
inductive Step : Buffer → Option Key → Buffer → Prop where
  /-- A key is taken off the pending bytes. -/
  | key {pending rest input : Bytes} {k : Key} (h : key? pending = some (k, rest)) :
      Step ⟨pending, input⟩ (some k) ⟨rest, input⟩
  /-- There is none, and another byte is added to them. -/
  | byte {pending input : Bytes} {b : UInt8} (h : key? pending = none) :
      Step ⟨pending, b :: input⟩ none ⟨pending ++ [b], input⟩

/-- Any number of actions, with the keys that they deliver. -/
inductive Reaches : Buffer → List Key → Buffer → Prop where
  | refl {x : Buffer} : Reaches x [] x
  | tail {x y z : Buffer} {ks : List Key} {k : Option Key} (h : Reaches x ks y) (hstep : Step y k z) :
      Reaches x (ks ++ k.toList) z

/-- A key of the pending bytes stands at their front. -/
theorem front_of_key? {pending rest : Bytes} {k : Key} (h : key? pending = some (k, rest)) :
    (∃ c, k = .char c ∧ front pending = .char c rest) ∨
      ∃ part, k = .invalid part ∧ front pending = .invalid part rest := by
  unfold key? at h
  split at h
  · next c rest' hfront =>
    cases h
    exact .inl ⟨c, rfl, hfront⟩
  · next part rest' hfront =>
    cases h
    exact .inr ⟨part, rfl, hfront⟩
  · cases h

theorem key?_eq_none_iff {pending : Bytes} : key? pending = none ↔ front pending = .short := by
  unfold key?
  cases front pending <;> simp

/-- A key of the pending bytes is the first key of all the bytes to come. -/
theorem keys_of_key? {pending rest : Bytes} {k : Key} (h : key? pending = some (k, rest))
    (input : Bytes) :
    Decoder.keys (pending ++ input) = k :: Decoder.keys (rest ++ input) ∧
      Decoder.unread (pending ++ input) = Decoder.unread (rest ++ input) := by
  rcases front_of_key? h with ⟨c, rfl, hfront⟩ | ⟨part, rfl, hfront⟩
  · exact Decoder.keys_of_front_char (front_append_char hfront input)
  · exact Decoder.keys_of_front_invalid (front_append_invalid hfront input)

/-- **What has been delivered and what is still to come** are always the same keys. -/
theorem Reaches.keys_eq {x y : Buffer} {ks : List Key} (h : Reaches x ks y) :
    Decoder.keys (x.pending ++ x.input) = ks ++ Decoder.keys (y.pending ++ y.input) ∧
      Decoder.unread (x.pending ++ x.input) = Decoder.unread (y.pending ++ y.input) := by
  induction h with
  | refl => exact ⟨rfl, rfl⟩
  | tail _ hstep ih =>
    rw [ih.1, ih.2]
    cases hstep with
    | key hkey =>
      obtain ⟨hkeys, hunread⟩ := keys_of_key? hkey _
      rw [hkeys, hunread, List.append_assoc]
      exact ⟨rfl, rfl⟩
    | byte _ => simp

/-! ## What a buffer holds -/

/-- An unfinished character has at most three bytes. -/
theorem length_le_of_front_short {bs : Bytes} (h : front bs = .short) : bs.length ≤ 3 := by
  rcases front_eq_short_iff.mp h with rfl | ⟨-, c, missing, hmissing, hc⟩
  · exact Nat.zero_le 3
  · have hfour : (encodeChar c).length ≤ 4 := by
      unfold encodeChar
      dsimp only
      repeat' split
      all_goals simp
    have hpos := List.length_pos_iff.mpr hmissing
    rw [hc, List.length_append] at hfour
    omega

/-- A key that could not be taken before the last byte came leaves at most that byte behind. -/
theorem length_le_of_key? {held rest : Bytes} {b : UInt8} {k : Key} (hheld : front held = .short)
    (h : key? (held ++ [b]) = some (k, rest)) : rest.length ≤ 1 := by
  -- what is left ends with the last byte, unless nothing is left
  rcases List.eq_nil_or_concat rest with rfl | ⟨middle, last, rfl⟩
  · exact Nat.zero_le 1
  rw [List.concat_eq_append] at h ⊢
  rcases front_of_key? h with ⟨c, rfl, hfront⟩ | ⟨part, rfl, hfront⟩
  · -- the character would have been complete without the last byte
    rw [front_eq_char_iff, ← List.append_assoc] at hfront
    have hwhole : front held = .char c middle :=
      front_eq_char_iff.mpr (List.append_inj' hfront rfl).1
    rw [hheld] at hwhole
    cases hwhole
  · cases middle with
    | nil => exact Nat.le_refl 1
    | cons x middle =>
      -- the part would not have been unfinished without the last byte
      have hwhole := eq_append_of_front_invalid hfront
      rw [← List.append_assoc] at hwhole
      obtain ⟨rfl, -⟩ := List.append_inj' hwhole rfl
      have hbegins : Begins (part ++ x :: middle) := by
        refine ((front_eq_short_iff.mp hheld).resolve_left ?_).begins
        simp
      exact absurd (hbegins.of_isPrefix ⟨middle, by simp⟩)
        ((maximalInvalid_of_front hfront).maximal x _ rfl)

/-- All but the last of the pending bytes are an unfinished character. -/
def Bounded (x : Buffer) : Prop := front x.pending.dropLast = .short

theorem Bounded.length_le {x : Buffer} (h : x.Bounded) : x.pending.length ≤ 4 := by
  have hlength := length_le_of_front_short h
  rw [List.length_dropLast] at hlength
  omega

/-- **Each action keeps the buffer bounded**, and a key leaves at most one byte behind. -/
theorem Step.bounded {x y : Buffer} {k : Option Key} (hx : x.Bounded) (h : Step x k y) :
    y.Bounded ∧ (k.isSome = true → y.pending.length ≤ 1) := by
  cases h with
  | @key pending rest input key hkey =>
    have hone : rest.length ≤ 1 := by
      rcases List.eq_nil_or_concat pending with rfl | ⟨held, b, rfl⟩
      · cases hkey
      · rw [List.concat_eq_append] at hkey
        unfold Bounded at hx
        rw [List.concat_eq_append, List.dropLast_concat] at hx
        exact length_le_of_key? hx hkey
    refine ⟨?_, fun _ => hone⟩
    have hnil : rest.dropLast = [] := by
      rw [← List.length_eq_zero_iff, List.length_dropLast]
      omega
    unfold Bounded
    rw [hnil]
    rfl
  | byte hnone =>
    refine ⟨?_, fun hsome => absurd hsome Bool.false_ne_true⟩
    unfold Bounded
    rw [List.dropLast_concat]
    exact key?_eq_none_iff.mp hnone

theorem Reaches.bounded {x y : Buffer} {ks : List Key} (hx : x.Bounded) (h : Reaches x ks y) :
    y.Bounded := by
  induction h with
  | refl => exact hx
  | tail _ hstep ih => exact (hstep.bounded ih).1

/-! ## The end of a buffer -/

/-- A reader at the end of its bytes. -/
def Finished (x : Buffer) : Prop := x.input = [] ∧ key? x.pending = none

theorem Reaches.trans {x y z : Buffer} {ks ks' : List Key} (h : Reaches x ks y)
    (h' : Reaches y ks' z) : Reaches x (ks ++ ks') z := by
  induction h' with
  | refl => rwa [List.append_nil]
  | tail _ hstep ih =>
    rw [← List.append_assoc]
    exact .tail ih hstep

theorem Step.reaches {x y : Buffer} {k : Option Key} (h : Step x k y) : Reaches x k.toList y :=
  .tail .refl h

/-- What is left to do: every byte is added once, and taken off once. -/
def size (x : Buffer) : Nat := 2 * x.input.length + x.pending.length

/-- **The reader comes to the end of its bytes.** -/
theorem reaches_finished (x : Buffer) : ∃ ks y, Reaches x ks y ∧ y.Finished := by
  obtain ⟨pending, input⟩ := x
  cases hkey : key? pending with
  | some taken =>
    obtain ⟨k, rest⟩ := taken
    have hshorter : rest.length < pending.length := by
      rcases front_of_key? hkey with ⟨c, -, hfront⟩ | ⟨part, -, hfront⟩
      · exact front_char_length hfront
      · exact front_invalid_length hfront
    obtain ⟨ks, y, hreaches, hfinished⟩ := reaches_finished ⟨rest, input⟩
    exact ⟨_, y, (Step.key hkey).reaches.trans hreaches, hfinished⟩
  | none =>
    cases input with
    | nil => exact ⟨_, _, .refl, rfl, hkey⟩
    | cons b input =>
      obtain ⟨ks, y, hreaches, hfinished⟩ := reaches_finished ⟨pending ++ [b], input⟩
      exact ⟨_, y, (Step.byte hkey).reaches.trans hreaches, hfinished⟩
termination_by x.size
decreasing_by
  all_goals simp only [size, List.length_append, List.length_cons, List.length_nil]
  all_goals omega

/-- **All keys have been delivered** at the end. -/
theorem Reaches.eq_keys {bs : Bytes} {ks : List Key} {x : Buffer} (h : Reaches ⟨[], bs⟩ ks x)
    (hx : x.Finished) : ks = Decoder.keys bs ∧ x.pending = Decoder.unread bs := by
  obtain ⟨hkeys, hunread⟩ := h.keys_eq
  obtain ⟨hnone, hleft⟩ := Decoder.keys_of_front_short (key?_eq_none_iff.mp hx.2)
  rw [hx.1, List.append_nil, hnone, List.append_nil] at hkeys
  rw [hx.1, List.append_nil, hleft] at hunread
  exact ⟨hkeys.symm, hunread.symm⟩

end Buffer

/-! ## Summary -/

/-- **Keys decoded one byte at a time are what the bytes show.** Bytes are cut in one way into
    characters and maximal invalid parts, each of which is shown as one character; these are the
    keys, in order, except that an unfinished character at the very end makes no key. So the keys of
    a text are its characters, also behind other bytes. A reader that keeps undecoded bytes delivers
    the same keys; it never holds more than four bytes, and after a key at most one. -/
theorem Decoder.keys_eq_lossy :
    (∀ bs, ∃ cs, (∀ cs', Cuts bs cs' ↔ cs' = cs) ∧ lossy bs = cs.map Chunk.shown ∧
      ((∃ part, Unfinished part ∧ cs = (keys bs).map Key.chunk ++ [.invalid part] ∧
          lossy bs = (keys bs).map Key.typed ++ [replacement]) ∨
        (∀ part, cs.getLast? = some (.invalid part) → ¬ Unfinished part) ∧
          cs = (keys bs).map Key.chunk ∧ lossy bs = (keys bs).map Key.typed)) ∧
      (∀ t, keys (encode t) = t.map .char) ∧
      (∀ bs t, ∃ earlier, keys (bs ++ encode t) = earlier ++ t.map .char) ∧
      ∀ bs, (∃ x, Buffer.Reaches ⟨[], bs⟩ (keys bs) x ∧ x.Finished) ∧
        ∀ ks x, Buffer.Reaches ⟨[], bs⟩ ks x →
          x.pending.length ≤ 4 ∧ (x.Finished → ks = keys bs ∧ x.pending = unread bs) ∧
            ∀ k y, Buffer.Step x (some k) y → y.pending.length ≤ 1 := by
  refine ⟨?_, keys_encode, keys_append_encode, ?_⟩
  · intro bs
    have hchunks := chunks_eq_keys bs
    have hshown : ((keys bs).map Key.chunk).map Chunk.shown = (keys bs).map Key.typed := by
      rw [List.map_map]
      exact List.map_congr_left fun k _ => k.shown_chunk
    refine ⟨chunks bs, fun _ => cuts_iff, rfl, ?_⟩
    rcases unread_eq_nil_or_unfinished bs with hnil | hunfinished
    · rw [if_pos hnil, List.append_nil] at hchunks
      refine .inr ⟨?_, hchunks, by rw [lossy, hchunks, hshown]⟩
      intro part hlast
      rw [hchunks, List.getLast?_map, Option.map_eq_some_iff] at hlast
      obtain ⟨k, hk, hpart⟩ := hlast
      cases k with
      | char c => cases hpart
      | invalid part' =>
        cases hpart
        exact not_unfinished_of_getLast? hnil hk
    · rw [if_neg hunfinished.1] at hchunks
      refine .inl ⟨unread bs, hunfinished, hchunks, ?_⟩
      rw [lossy, hchunks, List.map_append, hshown]
      rfl
  · intro bs
    have hempty : Buffer.Bounded ⟨[], bs⟩ := rfl
    constructor
    · obtain ⟨ks, x, hreaches, hfinished⟩ := Buffer.reaches_finished ⟨[], bs⟩
      exact ⟨x, (hreaches.eq_keys hfinished).1 ▸ hreaches, hfinished⟩
    · intro ks x hreaches
      have hbounded := hreaches.bounded hempty
      exact ⟨hbounded.length_le, hreaches.eq_keys, fun k y hstep => (hstep.bounded hbounded).2 rfl⟩

end CommandShell
