import CommandShell.Text.Basic

/-!
# `CommandShell.Proofs.Keys.Segments` — the segments of a key stream

Three bytes end a read: those of Ctrl+C, line feed and carriage return. A key stream is cut behind
each of them, without regard to anything else in it.

## Contents
- **Terminators.** `Bytes.isTerminator`, and `Bytes.IsSegment` for what stands between two of them.
- **Cut.** `Bytes.segments` and `Bytes.remainder`, put together again by `flatten_segments`;
  `isSegment_of_mem` and `not_isTerminator_of_mem` say what they are made of, and `cut_flatten` that
  nothing else is.
-/

namespace CommandShell

namespace Bytes

/-! ## Terminators -/

/-- Ctrl+C. -/
def interrupt : UInt8 := 0x03

/-- A line feed. -/
def lineFeed : UInt8 := 0x0A

/-- A carriage return, which the Enter key sends. -/
def carriageReturn : UInt8 := 0x0D

/-- The bytes that end a read. -/
def isTerminator (b : UInt8) : Bool := b == interrupt || b == lineFeed || b == carriageReturn

/-- Bytes of which the last one, and no other, is a terminator. -/
def IsSegment (s : Bytes) : Prop :=
  ∃ body last, s = body ++ [last] ∧ (∀ b ∈ body, isTerminator b = false) ∧ isTerminator last = true

theorem isTerminator_iff {b : UInt8} :
    isTerminator b = true ↔ b = interrupt ∨ b = lineFeed ∨ b = carriageReturn := by
  simp only [isTerminator, Bool.or_eq_true, beq_iff_eq, or_assoc]

/-! ## Cut -/

/-- The stream cut behind every terminator, and what follows the last one. -/
def cut : Bytes → List Bytes × Bytes
  | [] => ([], [])
  | b :: bs =>
    if isTerminator b then ([b] :: (cut bs).1, (cut bs).2)
    else match cut bs with
      | ([], rest) => ([], b :: rest)
      | (s :: ss, rest) => ((b :: s) :: ss, rest)

/-- The segments of a stream, in order. -/
def segments (bs : Bytes) : List Bytes := (cut bs).1

/-- What follows the last terminator of a stream. -/
def remainder (bs : Bytes) : Bytes := (cut bs).2

/-- Nothing is lost in the cut. -/
theorem flatten_segments (bs : Bytes) : (segments bs).flatten ++ remainder bs = bs := by
  unfold segments remainder
  induction bs with
  | nil => rfl
  | cons b bs ih =>
    rw [cut]
    split
    · show b :: ((cut bs).1.flatten ++ (cut bs).2) = b :: bs
      rw [ih]
    · -- the byte goes to the first segment, or to the remainder if there is none
      split
      · next rest hcut =>
        rw [hcut] at ih
        show b :: rest = b :: bs
        exact congrArg (b :: ·) ih
      · next s ss rest hcut =>
        rw [hcut] at ih
        show b :: (s ++ ss.flatten ++ rest) = b :: bs
        exact congrArg (b :: ·) ih

/-- **Every segment** ends with its only terminator. -/
theorem isSegment_of_mem {bs s : Bytes} (hs : s ∈ segments bs) : IsSegment s := by
  unfold segments at hs
  induction bs generalizing s with
  | nil => cases hs
  | cons b bs ih =>
    rw [cut] at hs
    split at hs
    · next hb =>
      rcases List.mem_cons.mp hs with rfl | hs
      · exact ⟨[], b, rfl, fun _ h => absurd h List.not_mem_nil, hb⟩
      · exact ih hs
    · next hb =>
      split at hs
      · cases hs
      · next first ss rest hcut =>
        rw [hcut] at ih
        rcases List.mem_cons.mp hs with rfl | hs
        · -- the first segment of the rest, with one more byte that is no terminator
          obtain ⟨body, last, rfl, hbody, hlast⟩ := ih List.mem_cons_self
          refine ⟨b :: body, last, rfl, ?_, hlast⟩
          intro x hx
          rcases List.mem_cons.mp hx with rfl | hx
          · exact Bool.eq_false_iff.mpr hb
          · exact hbody x hx
        · exact ih (List.mem_cons_of_mem first hs)

/-- An unfinished character and an unfinished escape sequence do not hide the terminator. -/
example : segments [0xE3, 0x82, 0x0D, 0x1B, 0x5B, 0x03, 0x61] =
    [[0xE3, 0x82, 0x0D], [0x1B, 0x5B, 0x03]] := by decide

/-- **The remainder** has no terminator at all. -/
theorem not_isTerminator_of_mem {bs : Bytes} {b : UInt8} (hb : b ∈ remainder bs) :
    isTerminator b = false := by
  unfold remainder at hb
  induction bs with
  | nil => cases hb
  | cons x bs ih =>
    rw [cut] at hb
    split at hb
    · exact ih hb
    · next hx =>
      split at hb
      · next rest hcut =>
        rw [hcut] at ih
        rcases List.mem_cons.mp hb with rfl | hb
        · exact Bool.eq_false_iff.mpr hx
        · exact ih hb
      · next hcut =>
        rw [hcut] at ih
        exact ih hb

/-- What is not a terminator goes to the first segment, or to the remainder if there is none. -/
theorem cut_append {body : Bytes} (hbody : ∀ b ∈ body, isTerminator b = false) (bs : Bytes) :
    cut (body ++ bs) =
      match cut bs with
      | ([], rest) => ([], body ++ rest)
      | (s :: ss, rest) => ((body ++ s) :: ss, rest) := by
  induction body with
  | nil => rcases h : cut bs with ⟨_ | ⟨s, ss⟩, rest⟩ <;> exact h
  | cons b body ih =>
    have hb : ¬ isTerminator b = true := Bool.eq_false_iff.mp (hbody b List.mem_cons_self)
    rw [List.cons_append, cut, if_neg hb, ih fun x hx => hbody x (List.mem_cons_of_mem b hx)]
    rcases cut bs with ⟨_ | ⟨s, ss⟩, rest⟩ <;> rfl

/-- **There is only one way** to cut a stream behind its terminators. -/
theorem cut_flatten {parts : List Bytes} (hparts : ∀ s ∈ parts, IsSegment s) {rest : Bytes}
    (hrest : ∀ b ∈ rest, isTerminator b = false) : cut (parts.flatten ++ rest) = (parts, rest) := by
  induction parts with
  | nil =>
    have h := cut_append hrest []
    rw [List.append_nil] at h
    rw [List.flatten_nil, List.nil_append, h]
    exact congrArg (Prod.mk []) (List.append_nil rest)
  | cons part parts ih =>
    obtain ⟨body, last, rfl, hbody, hlast⟩ := hparts part List.mem_cons_self
    rw [List.flatten_cons, List.append_assoc, List.append_assoc, cut_append hbody,
      List.singleton_append, cut, if_pos hlast,
      ih fun s hs => hparts s (List.mem_cons_of_mem (body ++ [last]) hs)]

end Bytes

end CommandShell
