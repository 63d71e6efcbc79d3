import CommandShell.Text.Basic

/-!
# `CommandShell.Text.Utf8` — UTF-8

Text to bytes and back. Decoding cuts bytes into chunks, each a character or a maximal part that
begins no character, so that one cut serves the strict decoding, the lossy display and the quoted
display of a path.

## Contents
- **Encoding.** `Utf8.encode`, one to four bytes per character.
- **First character.** `Utf8.front` tells whether bytes start with a character, with an invalid
  part, or with something that more bytes could still complete. `front_char_length` and
  `front_invalid_length` say that the rest is shorter, which is why decoding ends.
- **Decoding.** `Utf8.chunks`; from it `decode?`, which refuses invalid bytes, and `lossy`, which
  shows each invalid part as one U+FFFD.
-/

namespace CommandShell

namespace Utf8

/-! ## Encoding -/

/-- A continuation byte: its low six bits come from the number. -/
def continuation (n : Nat) : UInt8 := UInt8.ofNat (0x80 + n % 0x40)

/-- The bytes of one character, most significant bits first. -/
def encodeChar (c : Char) : Bytes :=
  let n := c.toNat
  if n < 0x80 then [UInt8.ofNat n]
  else if n < 0x800 then [UInt8.ofNat (0xC0 + n / 0x40), continuation n]
  else if n < 0x10000 then
    [UInt8.ofNat (0xE0 + n / 0x1000), continuation (n / 0x40), continuation n]
  else
    [UInt8.ofNat (0xF0 + n / 0x40000), continuation (n / 0x1000), continuation (n / 0x40),
      continuation n]

/-- The bytes of a text. -/
def encode (s : Text) : Bytes := s.flatMap encodeChar

@[simp] theorem encode_nil : encode [] = [] := rfl

@[simp] theorem encode_cons (c : Char) (s : Text) : encode (c :: s) = encodeChar c ++ encode s :=
  rfl

@[simp] theorem encode_append (s t : Text) : encode (s ++ t) = encode s ++ encode t :=
  List.flatMap_append

/-! ## The sequence that a byte begins -/

/-- What the first byte of a longer sequence announces: how many bytes are still to come, between
    which bounds the next one lies, and the bits known so far. -/
structure Lead where
  missing : Nat
  low : UInt8
  high : UInt8
  bits : Nat
  deriving DecidableEq, Repr

/-- The first bytes of the sequences of two, three and four bytes. The bounds of the second byte
    leave out longer spellings of short numbers, surrogates, and numbers above U+10FFFF. -/
def lead? (b : UInt8) : Option Lead :=
  if 0xC2 ≤ b ∧ b ≤ 0xDF then some ⟨1, 0x80, 0xBF, b.toNat - 0xC0⟩
  else if b = 0xE0 then some ⟨2, 0xA0, 0xBF, 0⟩
  else if b = 0xED then some ⟨2, 0x80, 0x9F, 0xD⟩
  else if 0xE1 ≤ b ∧ b ≤ 0xEF then some ⟨2, 0x80, 0xBF, b.toNat - 0xE0⟩
  else if b = 0xF0 then some ⟨3, 0x90, 0xBF, 0⟩
  else if 0xF1 ≤ b ∧ b ≤ 0xF3 then some ⟨3, 0x80, 0xBF, b.toNat - 0xF0⟩
  else if b = 0xF4 then some ⟨3, 0x80, 0x8F, 4⟩
  else none

/-- The lead after one more byte `b` of its sequence, which allows any continuation byte next. -/
def Lead.extend (l : Lead) (b : UInt8) : Lead :=
  ⟨l.missing - 1, 0x80, 0xBF, l.bits * 0x40 + (b.toNat - 0x80)⟩

/-- Whether a byte may stand next in the sequence. -/
def Lead.admits (l : Lead) (b : UInt8) : Bool := l.low ≤ b && b ≤ l.high

/-! ## The first character of some bytes -/

/-- How some bytes start. -/
inductive Front where
  /-- With a character. -/
  | char (c : Char) (rest : Bytes)
  /-- With a part that no further byte can make a character. -/
  | invalid (part rest : Bytes)
  /-- With nothing, or with a part that further bytes may complete. -/
  | short
  deriving DecidableEq, Repr

/-- Reads the bytes that a lead announces, after the bytes `seen`. -/
def follow : Nat → Lead → Bytes → Bytes → Front
  | 0, l, _, bs => .char (Char.ofNat l.bits) bs
  | _ + 1, _, _, [] => .short
  | n + 1, l, seen, b :: bs =>
    if l.admits b then follow n (l.extend b) (seen ++ [b]) bs else .invalid seen (b :: bs)

/-- How some bytes start: the longest invalid part that cannot be continued is cut off whole. -/
def front : Bytes → Front
  | [] => .short
  | b :: bs =>
    if b < 0x80 then .char (Char.ofNat b.toNat) bs
    else match lead? b with
      | none => .invalid [b] bs
      | some l => follow l.missing l [b] bs

theorem follow_char_length {n : Nat} {l : Lead} {seen bs : Bytes} {c : Char} {rest : Bytes}
    (h : follow n l seen bs = .char c rest) : rest.length ≤ bs.length := by
  fun_induction follow n l seen bs with
  | case1 => cases h; exact Nat.le_refl _
  | case2 => cases h
  | case3 n l seen b bs _ ih => exact Nat.le_succ_of_le (ih h)
  | case4 => cases h

theorem follow_invalid_length {n : Nat} {l : Lead} {seen bs part rest : Bytes}
    (h : follow n l seen bs = .invalid part rest) : rest.length ≤ bs.length := by
  fun_induction follow n l seen bs with
  | case1 => cases h
  | case2 => cases h
  | case3 n l seen b bs _ ih => exact Nat.le_succ_of_le (ih h)
  | case4 => cases h; exact Nat.le_refl _

/-- What follows the first character is shorter than the whole. -/
theorem front_char_length {bs rest : Bytes} {c : Char} (h : front bs = .char c rest) :
    rest.length < bs.length := by
  cases bs with
  | nil => cases h
  | cons b bs =>
    simp only [front] at h
    split at h
    · cases h; exact Nat.lt_succ_self _
    · split at h
      · cases h
      · exact Nat.lt_succ_of_le (follow_char_length h)

/-- What follows the first invalid part is shorter than the whole. -/
theorem front_invalid_length {bs part rest : Bytes} (h : front bs = .invalid part rest) :
    rest.length < bs.length := by
  cases bs with
  | nil => cases h
  | cons b bs =>
    simp only [front] at h
    split at h
    · cases h
    · split at h
      · cases h; exact Nat.lt_succ_self _
      · exact Nat.lt_succ_of_le (follow_invalid_length h)

/-! ## Decoding -/

/-- A piece of some bytes: a character, or a part that is none. -/
inductive Chunk where
  | char (c : Char)
  | invalid (part : Bytes)
  deriving DecidableEq, Repr

/-- Bytes cut into characters and invalid parts. What is unfinished at the end is an invalid part
    too. -/
def chunks (bs : Bytes) : List Chunk :=
  match _h : front bs with
  | .char c rest => .char c :: chunks rest
  | .invalid part rest => .invalid part :: chunks rest
  | .short => if bs = [] then [] else [.invalid bs]
termination_by bs.length
decreasing_by
  · exact front_char_length _h
  · exact front_invalid_length _h

/-- The character that stands for bytes that are none. -/
def replacement : Char := Char.ofNat 0xFFFD

/-- How a chunk is shown: an invalid part, whatever its length, as one U+FFFD. -/
def Chunk.shown : Chunk → Char
  | .char c => c
  | .invalid _ => replacement

/-- The character of a chunk, if it is one. -/
def Chunk.char? : Chunk → Option Char
  | .char c => some c
  | .invalid _ => none

/-- The text for display: every maximal invalid part becomes one U+FFFD. -/
def lossy (bs : Bytes) : Text := (chunks bs).map Chunk.shown

/-- The text that the bytes encode, if they encode one. -/
def decode? (bs : Bytes) : Option Text := (chunks bs).mapM Chunk.char?

end Utf8

end CommandShell
