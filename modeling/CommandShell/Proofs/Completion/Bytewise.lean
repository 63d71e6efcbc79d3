import CommandShell.Proofs.Completion.Prefix
import CommandShell.Proofs.Text.Order
import Mathlib.Data.List.Sort

/-!
# `CommandShell.Proofs.Completion.Bytewise` — the scan for a prefix, by characters and by bytes

Names may be kept and compared as bytes instead of characters. The scan for a prefix then comes to the bytes
of the same names, in the same order; and in either form it comes to all names with the prefix, although it
starts at the first name that is not below the prefix and stops at the first one without it.

## Contents
- **Bytes.** `scanBytes`, and `scanBytes_names`.
- **Sets of names.** `names_eq_of_mem_iff`: registries differ only in what they know.
- **Summary.** `scan_eq_filter`.
-/

namespace CommandShell

namespace Registry

/-! ## Bytes -/

/-- The scan of names that are kept as bytes, for a prefix in bytes. -/
def scanBytes (names : List Bytes) (p : Bytes) : List Bytes :=
  (names.dropWhile fun n => decide (n < p)).takeWhile p.isPrefixOf

/-- **The scan of the bytes** finds the bytes of the names that the scan of the names finds. -/
theorem scanBytes_names (r : Registry) (p : Text) :
    scanBytes (r.names.map Utf8.encode) (Utf8.encode p) = (r.withPrefix p).map Utf8.encode := by
  have hbelow : (fun n => decide (n < Utf8.encode p)) ∘ Utf8.encode = fun n => decide (n < p) := by
    funext n
    simp [Utf8.encode_lt_encode_iff]
  have hstarts : (Utf8.encode p).isPrefixOf ∘ Utf8.encode = p.isPrefixOf := by
    funext n
    apply Bool.eq_iff_iff.mpr
    simp [Utf8.encode_isPrefix_iff]
  rw [scanBytes, List.dropWhile_map, List.takeWhile_map, hbelow, hstarts]
  rfl

/-! ## Sets of names -/

/-- Two registries that know the same names list them in the same way. -/
theorem names_eq_of_mem_iff {r r' : Registry} (h : ∀ n, n ∈ r.names ↔ n ∈ r'.names) :
    r.names = r'.names :=
  r.sorted.eq_of_mem_iff r'.sorted h

/-- What a scan finds, as a registry of its own. -/
def restrict (r : Registry) (p : Text) : Registry := ⟨r.withPrefix p, pairwise_withPrefix⟩

/-! ## Summary -/

/-- **The scan for a prefix is the plain filter.** Of the names that a registry is made of, in any order and
    with repetitions, the scan finds those with the prefix, each once, in the strictly increasing order of
    their bytes; this is also the order of their characters. It finds what is left if the names with the
    prefix are picked out of the ordered names, or a registry is made of these names alone; and the same scan
    over the bytes of the names finds the bytes of the same names. -/
theorem scan_eq_filter (names : List Text) (p : Text) :
    let r := ofNames names
    (∀ n, n ∈ r.withPrefix p ↔ n ∈ names ∧ p <+: n) ∧
      (r.withPrefix p).Nodup ∧
      ((r.withPrefix p).map Utf8.encode).Pairwise (· < ·) ∧
      (∀ s t : Text, Utf8.encode s < Utf8.encode t ↔ s < t) ∧
      r.withPrefix p = r.names.filter p.isPrefixOf ∧
      r.withPrefix p = (ofNames (names.filter p.isPrefixOf)).names ∧
      scanBytes (r.names.map Utf8.encode) (Utf8.encode p) = (r.withPrefix p).map Utf8.encode := by
  intro r
  have hmem : ∀ n, n ∈ r.withPrefix p ↔ n ∈ names ∧ p <+: n := by
    intro n
    rw [mem_withPrefix, Matches, mem_ofNames]
  have hsorted : (r.withPrefix p).Pairwise (· < ·) := pairwise_withPrefix
  refine ⟨hmem, ?_, ?_, fun s t => Utf8.encode_lt_encode_iff, withPrefix_eq_filter r p, ?_,
    scanBytes_names r p⟩
  · apply hsorted.imp
    rintro n m hlt rfl
    exact List.lt_irrefl n hlt
  · rw [List.pairwise_map]
    exact hsorted.imp Utf8.encode_lt_encode
  · apply names_eq_of_mem_iff (r := r.restrict p)
    intro n
    show n ∈ r.withPrefix p ↔ _
    rw [hmem, mem_ofNames, List.mem_filter, List.isPrefixOf_iff_prefix]

/-- Names of one, two, three and four bytes to a character, out of order and repeated. -/
example :
    let face := ['x', Char.ofNat 0x1F600]
    (ofNames [face, "x\uFFFD".toList, "x".toList, "y".toList, "xz".toList, "x\u00E9".toList,
      "x".toList]).withPrefix ['x'] =
        ["x".toList, "xz".toList, "x\u00E9".toList, "x\uFFFD".toList, face] := by decide

end Registry

end CommandShell
