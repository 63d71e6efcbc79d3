import CommandShell.Text.Basic

/-!
# `CommandShell.Completion.Registry` — the known command names

The names that Tab can complete, kept in increasing order without repetition. Names are ordered
character by character, which is also the order of their bytes.

## Contents
- **Insertion.** `Registry.insertName` puts one name into an ordered list; `mem_insertName` and
  `pairwise_insertName` say that it adds that name only and keeps the order.
- **Registries.** `Registry` carries its order as a field; `ofNames` builds one from any list, and
  `mem_ofNames` says that it knows exactly the names of the list.
- **Prefixes.** `Registry.withPrefix` starts at the first name that is not below the prefix and
  stops at the first name that does not start with it.
-/

namespace CommandShell

/-! ## Insertion into an ordered list -/

/-- Of two different texts one comes before the other. -/
theorem Text.lt_of_not_lt_of_ne {s t : Text} (h : ¬ s < t) (hne : s ≠ t) : t < s := by
  rcases Decidable.em (t < s) with h' | h'
  · exact h'
  · exact absurd (List.le_antisymm (List.not_lt.mp h') (List.not_lt.mp h)) hne

/-- Puts a name at its place in an ordered list, unless it stands there already. -/
def Registry.insertName (n : Text) : List Text → List Text
  | [] => [n]
  | m :: ms =>
    if n < m then n :: m :: ms else if n = m then m :: ms else m :: Registry.insertName n ms

theorem Registry.mem_insertName {n x : Text} {ms : List Text} :
    x ∈ Registry.insertName n ms ↔ x = n ∨ x ∈ ms := by
  induction ms with
  | nil => simp [Registry.insertName]
  | cons m ms ih =>
    simp only [Registry.insertName]
    split
    · simp
    · split
      · next h => subst h; simp
      · simp only [List.mem_cons, ih]
        exact or_left_comm

theorem Registry.pairwise_insertName {n : Text} {ms : List Text} (h : ms.Pairwise (· < ·)) :
    (Registry.insertName n ms).Pairwise (· < ·) := by
  induction ms with
  | nil => simp [Registry.insertName]
  | cons m ms ih =>
    obtain ⟨hm, hms⟩ := List.pairwise_cons.mp h
    simp only [Registry.insertName]
    split
    · next hlt =>
      refine List.pairwise_cons.mpr ⟨fun x hx => ?_, h⟩
      rcases List.mem_cons.mp hx with rfl | hx
      · exact hlt
      · exact List.lt_trans hlt (hm x hx)
    · next hlt =>
      split
      · exact h
      · next hne =>
        refine List.pairwise_cons.mpr ⟨fun x hx => ?_, ih hms⟩
        rcases Registry.mem_insertName.mp hx with rfl | hx
        · exact Text.lt_of_not_lt_of_ne hlt hne
        · exact hm x hx

/-! ## Registries -/

/-- A set of command names, listed in increasing order. -/
structure Registry where
  names : List Text
  sorted : names.Pairwise (· < ·)
  deriving DecidableEq

namespace Registry

/-- The registry without names. -/
def empty : Registry := ⟨[], .nil⟩

/-- The registry with one more name. -/
def insert (r : Registry) (n : Text) : Registry :=
  ⟨insertName n r.names, pairwise_insertName r.sorted⟩

/-- The registry of exactly these names. -/
def ofNames (names : List Text) : Registry := names.foldl insert empty

/-- The number of names. -/
def size (r : Registry) : Nat := r.names.length

theorem mem_foldl_insert {r : Registry} {ns : List Text} {x : Text} :
    x ∈ (ns.foldl insert r).names ↔ x ∈ r.names ∨ x ∈ ns := by
  induction ns generalizing r with
  | nil => simp
  | cons n ns ih =>
    simp only [List.foldl_cons, ih, insert, mem_insertName, List.mem_cons]
    constructor
    · rintro ((h | h) | h)
      · exact .inr (.inl h)
      · exact .inl h
      · exact .inr (.inr h)
    · rintro (h | h | h)
      · exact .inl (.inr h)
      · exact .inl (.inl h)
      · exact .inr h

/-- A registry knows exactly the names that it was made of. -/
theorem mem_ofNames {ns : List Text} {x : Text} : x ∈ (ofNames ns).names ↔ x ∈ ns := by
  simp [ofNames, mem_foldl_insert, empty]

/-- The names that start with `p`, in order: those from the first name not below `p` up to the first
    one that does not start with `p`. -/
def withPrefix (r : Registry) (p : Text) : List Text :=
  (r.names.dropWhile fun n => decide (n < p)).takeWhile p.isPrefixOf

end Registry

end CommandShell
