import CommandShell.Completion.Registry

/-!
# `CommandShell.Proofs.Completion.Prefix` — the names that start with a prefix

`Registry.withPrefix` looks at one stretch of the ordered names and at no name outside it. That
misses nothing: in the order of texts, the texts that start with a prefix follow one another without
a gap, and the prefix itself is not above any of them.

## Contents
- **Order.** `not_lt_of_isPrefix` and `isPrefix_of_not_lt_of_lt`, the two ends of the stretch.
- **Scan.** `withPrefix_eq_filter`: the stretch is the list of all names with the prefix.
- **Matches.** `Registry.Matches`, and what the scan inherits from the order of the names.
-/

namespace CommandShell

/-! ## Prefixes in the order of texts -/

/-- A text is not below a text that it starts with. -/
theorem Text.not_lt_of_isPrefix {p n : Text} (h : p <+: n) : ¬ n < p := by
  obtain ⟨t, rfl⟩ := h
  exact List.not_lt.mpr (List.le_append_left)

/-- **No gap.** What lies between a prefix and a text with that prefix has the prefix too. -/
theorem Text.isPrefix_of_not_lt_of_lt {p m n : Text} (hpm : ¬ m < p) (hmn : m < n) (h : p <+: n) :
    p <+: m := by
  induction p generalizing m n with
  | nil => exact List.nil_prefix
  | cons a p ih =>
    obtain ⟨t, rfl⟩ := h
    cases m with
    | nil => exact absurd (List.nil_lt_cons a p) hpm
    | cons b m =>
      rw [List.cons_lt_cons_iff, not_or, not_and] at hpm
      rw [List.cons_append, List.cons_lt_cons_iff] at hmn
      rcases hmn with hba | ⟨rfl, hlt⟩
      · exact absurd hba hpm.1
      · exact List.cons_prefix_cons.mpr ⟨rfl, ih (hpm.2 rfl) hlt (List.prefix_append p t)⟩

/-! ## The scan -/

/-- Among ordered names that are not below the prefix, those with the prefix come first. -/
theorem Registry.takeWhile_isPrefixOf {p : Text} {ns : List Text} (hsorted : ns.Pairwise (· < ·))
    (hns : ∀ n ∈ ns, ¬ n < p) : ns.takeWhile p.isPrefixOf = ns.filter p.isPrefixOf := by
  induction ns with
  | nil => rfl
  | cons m ns ih =>
    obtain ⟨hm, hsorted⟩ := List.pairwise_cons.mp hsorted
    by_cases hp : p.isPrefixOf m
    · rw [List.takeWhile_cons_of_pos hp, List.filter_cons_of_pos hp,
        ih hsorted fun n hn => hns n (List.mem_cons_of_mem m hn)]
    · rw [List.takeWhile_cons_of_neg hp, List.filter_cons_of_neg hp]
      refine (List.filter_eq_nil_iff.mpr fun n hn hpn => hp ?_).symm
      exact List.isPrefixOf_iff_prefix.mpr (Text.isPrefix_of_not_lt_of_lt
        (hns m List.mem_cons_self) (hm n hn) (List.isPrefixOf_iff_prefix.mp hpn))

namespace Registry

variable {r : Registry} {p : Text}

/-- **The scan misses no name**: it finds all names that start with the prefix. -/
theorem withPrefix_eq_filter (r : Registry) (p : Text) :
    r.withPrefix p = r.names.filter p.isPrefixOf := by
  obtain ⟨ns, hsorted⟩ := r
  show (ns.dropWhile fun n => decide (n < p)).takeWhile p.isPrefixOf = ns.filter p.isPrefixOf
  induction ns with
  | nil => rfl
  | cons m ns ih =>
    obtain ⟨hm, hns⟩ := List.pairwise_cons.mp hsorted
    by_cases hlt : m < p
    · have hp : ¬ p.isPrefixOf m = true := fun hp =>
        Text.not_lt_of_isPrefix (List.isPrefixOf_iff_prefix.mp hp) hlt
      rw [List.dropWhile_cons_of_pos (by simpa using hlt), List.filter_cons_of_neg hp, ih hns]
    · rw [List.dropWhile_cons_of_neg (by simpa using hlt)]
      refine takeWhile_isPrefixOf hsorted fun n hn => ?_
      rcases List.mem_cons.mp hn with rfl | hn
      · exact hlt
      · exact fun h => hlt (List.lt_trans (hm n hn) h)

/-! ## Matches -/

/-- A known name that starts with the prefix. -/
def Matches (r : Registry) (p n : Text) : Prop := n ∈ r.names ∧ p <+: n

theorem mem_withPrefix {n : Text} : n ∈ r.withPrefix p ↔ r.Matches p n := by
  rw [withPrefix_eq_filter, List.mem_filter, List.isPrefixOf_iff_prefix]
  exact Iff.rfl

/-- The names come in increasing order, each once. -/
theorem pairwise_withPrefix : (r.withPrefix p).Pairwise (· < ·) := by
  rw [withPrefix_eq_filter]
  exact r.sorted.filter _

/-- Nothing is found when no name matches. -/
theorem withPrefix_eq_nil_iff : r.withPrefix p = [] ↔ ∀ n, ¬ r.Matches p n := by
  rw [List.eq_nil_iff_forall_not_mem]
  simp only [mem_withPrefix]

/-- One match alone is found alone. -/
theorem withPrefix_eq_singleton {n : Text} (h : ∀ m, r.Matches p m ↔ m = n) :
    r.withPrefix p = [n] := by
  have hmem : ∀ m, m ∈ r.withPrefix p ↔ m = n := fun m => mem_withPrefix.trans (h m)
  have hnodup : (r.withPrefix p).Pairwise (· < ·) := pairwise_withPrefix
  match hlist : r.withPrefix p with
  | [] => simp [hlist] at hmem
  | [m] => rw [(hmem m).mp (by simp [hlist])]
  | m :: m' :: ms =>
    have hm : m = n := (hmem m).mp (by simp [hlist])
    have hm' : m' = n := (hmem m').mp (by simp [hlist])
    rw [hlist, List.pairwise_cons] at hnodup
    have hlt : m < m' := hnodup.1 m' List.mem_cons_self
    rw [hm, hm'] at hlt
    exact absurd hlt (List.lt_irrefl n)

/-- What is found alone is the one match. -/
theorem matches_iff_of_singleton {n : Text} (h : r.withPrefix p = [n]) (m : Text) :
    r.Matches p m ↔ m = n := by
  rw [← mem_withPrefix, h, List.mem_singleton]

/-- Two matches are found as two. -/
theorem withPrefix_eq_cons_cons {n m : Text} (hn : r.Matches p n) (hm : r.Matches p m)
    (hne : n ≠ m) : ∃ first second rest, r.withPrefix p = first :: second :: rest := by
  have hn := mem_withPrefix.mpr hn
  have hm := mem_withPrefix.mpr hm
  match hlist : r.withPrefix p with
  | [] => simp [hlist] at hn
  | [x] =>
    rw [hlist, List.mem_singleton] at hn hm
    exact absurd (hn.trans hm.symm) hne
  | x :: y :: rest => exact ⟨x, y, rest, rfl⟩

end Registry

end CommandShell
