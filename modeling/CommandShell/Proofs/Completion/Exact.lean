import CommandShell.Completion.Basic
import CommandShell.Proofs.Completion.Prefix
import CommandShell.Text.Utf8

/-!
# `CommandShell.Proofs.Completion.Exact` — what completion answers, and on which bytes

Completion is described by the set of matching names alone: nothing for no match, the whole name and
a space for one, the longest common start of several as far as it adds something, else all of them.
The same answer comes out when every cut is made at an offset in bytes, as long as no cut falls
inside a character; none does.

## Contents
- **Common starts.** `Text.IsLongestShared`; `foldl_common_isLongestShared`.
- **Cases.** `complete_eq_noMatch_iff`, `complete_of_only`, `complete_of_several`; `complete_eq_direct_iff`
  describes the offer by the `goal` of the names that match.
- **Offsets.** `Text.cutAt?` cuts at an offset in bytes and refuses one inside a character;
  `Registry.completeByOffset` completes with such cuts only.
- **Exactness.** `complete_exact`.
-/

namespace CommandShell

/-! ## The longest common start -/

namespace Text

/-- What two texts both start with is a start of `common`. -/
theorem isPrefix_common {k s t : Text} (hs : k <+: s) (ht : k <+: t) : k <+: common s t := by
  induction k generalizing s t with
  | nil => exact List.nil_prefix
  | cons a k ih =>
    obtain ⟨s, rfl⟩ := hs
    obtain ⟨t, rfl⟩ := ht
    show a :: k <+: common (a :: (k ++ s)) (a :: (k ++ t))
    rw [common, if_pos rfl]
    exact List.cons_prefix_cons.mpr ⟨rfl, ih (List.prefix_append k s) (List.prefix_append k t)⟩

/-- A text starts with the same texts as all of some texts do, if it is their fold under `common`. -/
theorem isPrefix_foldl_common_iff {k n : Text} {ns : List Text} :
    k <+: ns.foldl common n ↔ ∀ m ∈ n :: ns, k <+: m := by
  induction ns generalizing n with
  | nil => simp
  | cons m ns ih =>
    have hcommon : k <+: common n m ↔ k <+: n ∧ k <+: m :=
      ⟨fun h => ⟨h.trans (common_isPrefix_left n m), h.trans (common_isPrefix_right n m)⟩,
        fun h => isPrefix_common h.1 h.2⟩
    rw [List.foldl_cons, ih]
    simp only [List.forall_mem_cons, hcommon, and_assoc]

/-- The longest text that all members of a set start with. -/
structure IsLongestShared (M : Text → Prop) (l : Text) : Prop where
  shared : ∀ n, M n → l <+: n
  longest : ∀ k, (∀ n, M n → k <+: n) → k.length ≤ l.length

/-- **The fold under `common`** is the longest common start of the texts. -/
theorem foldl_common_isLongestShared {M : Text → Prop} {n : Text} {ns : List Text}
    (h : ∀ m, m ∈ n :: ns ↔ M m) : IsLongestShared M (ns.foldl common n) where
  shared m hm := isPrefix_foldl_common_iff.mp List.prefix_rfl m ((h m).mpr hm)
  longest _ hk := (isPrefix_foldl_common_iff.mpr fun m hm => hk m ((h m).mp hm)).length_le

end Text

/-! ## The cases of completion -/

namespace Registry

variable {r : Registry} {p s : Text}

/-- Nothing is offered for no text, and when no name matches. -/
theorem complete_eq_noMatch_iff : r.complete p = .noMatch ↔ p = [] ∨ r.withPrefix p = [] := by
  unfold complete
  by_cases hp : p = []
  · simp [hp]
  · simp only [hp, if_false, false_or]
    split
    · next h => simp [h]
    · next h => simp [h]
    · next h =>
      rw [h]
      split <;> simp

/-- **One match** is completed to the whole name and a space. -/
theorem complete_of_only (hp : p ≠ []) {n : Text} (h : r.withPrefix p = [n]) :
    ∃ s, r.complete p = .direct s ∧ p ++ s = n ++ [' '] := by
  have hn : r.Matches p n := mem_withPrefix.mp (by simp [h])
  obtain ⟨t, ht⟩ := hn.2
  refine ⟨n.drop p.length ++ [' '], by simp [complete, hp, h], ?_⟩
  rw [← ht, List.drop_left, List.append_assoc]

/-- **Several matches** are extended as far as they agree, and offered when they agree no further. -/
theorem complete_of_several (hp : p ≠ []) {n m : Text} {ns : List Text}
    (h : r.withPrefix p = n :: m :: ns) :
    p <+: (m :: ns).foldl Text.common n ∧
    (p.length < ((m :: ns).foldl Text.common n).length →
      ∃ s, r.complete p = .direct s ∧ p ++ s = (m :: ns).foldl Text.common n) ∧
    ((m :: ns).foldl Text.common n = p → r.complete p = .choice (n :: m :: ns)) := by
  have hpre : p <+: (m :: ns).foldl Text.common n :=
    Text.isPrefix_foldl_common_iff.mpr fun x hx => (mem_withPrefix.mp (h ▸ hx)).2
  refine ⟨hpre, fun hlt => ?_, fun heq => ?_⟩
  · obtain ⟨t, ht⟩ := hpre
    refine ⟨t, ?_, ht⟩
    rw [← ht] at hlt
    simp only [complete, hp, if_false, h, ← ht, hlt, if_true, List.drop_left]
  · simp only [complete, hp, if_false, h, heq, Nat.lt_irrefl]

/-- Where completion leads if these are the names that match: to the only name and a space, or to all
    that several names share. -/
def goal : List Text → Text
  | [] => []
  | [n] => n ++ [' ']
  | n :: m :: ns => (m :: ns).foldl Text.common n

/-- **The offer** is what is missing to the goal of the matching names, if something is. -/
theorem complete_eq_direct_iff :
    r.complete p = .direct s ↔ p ≠ [] ∧ s ≠ [] ∧ p ++ s = goal (r.withPrefix p) := by
  by_cases hp : p = []
  · simp [complete, hp]
  match hlist : r.withPrefix p with
  | [] =>
    rw [complete_eq_noMatch_iff.mpr (.inr hlist)]
    simp [goal, hp]
  | [n] =>
    obtain ⟨t, ht, heq⟩ := complete_of_only hp hlist
    have htne : t ≠ [] := by
      -- the only name starts with what was typed, so that at least the space is missing
      rintro rfl
      have hlength := (mem_withPrefix.mp (hlist ▸ List.mem_cons_self : n ∈ r.withPrefix p)).2.length_le
      have hsame := congrArg List.length heq
      simp only [List.length_append, List.length_nil, List.length_singleton] at hsame
      omega
    rw [ht, Completion.direct.injEq]
    constructor
    · rintro rfl
      exact ⟨hp, htne, heq⟩
    · rintro ⟨-, -, hs⟩
      exact List.append_cancel_left (heq.trans hs.symm)
  | n :: m :: ns =>
    obtain ⟨hpre, hlonger, hequal⟩ := complete_of_several hp hlist
    show _ ↔ p ≠ [] ∧ s ≠ [] ∧ p ++ s = (m :: ns).foldl Text.common n
    by_cases hlt : p.length < ((m :: ns).foldl Text.common n).length
    · obtain ⟨t, ht, heq⟩ := hlonger hlt
      rw [ht, Completion.direct.injEq, ← heq]
      constructor
      · rintro rfl
        refine ⟨hp, ?_, rfl⟩
        rintro rfl
        rw [← heq, List.append_nil] at hlt
        exact Nat.lt_irrefl _ hlt
      · rintro ⟨-, -, hs⟩
        exact (List.append_cancel_left hs).symm
    · have heq := hpre.eq_of_length_le (Nat.not_lt.mp hlt)
      rw [hequal heq.symm, ← heq]
      refine ⟨nofun, ?_⟩
      rintro ⟨-, hs, happend⟩
      exact absurd (List.append_right_eq_self.mp happend) hs

/-- Each of the names that lead to a goal leads on from there, or has only a space to go. -/
theorem goal_isPrefix {n : Text} {ns : List Text} (h : n ∈ ns) : goal ns <+: n ++ [' '] := by
  match ns, h with
  | [m], h =>
    rw [List.mem_singleton.mp h]
    exact List.prefix_rfl
  | m :: m' :: ms, h =>
    exact (Text.isPrefix_foldl_common_iff.mp List.prefix_rfl n h).trans (List.prefix_append n [' '])

/-- What is added continues every name that matches, up to the space behind it. -/
theorem isPrefix_of_complete_direct {n : Text} (h : r.complete p = .direct s) (hn : r.Matches p n) :
    p ++ s <+: n ++ [' '] := by
  obtain ⟨-, -, hgoal⟩ := complete_eq_direct_iff.mp h
  rw [hgoal]
  exact goal_isPrefix (mem_withPrefix.mpr hn)

/-- What is added always continues a known name. -/
theorem exists_of_complete_direct (h : r.complete p = .direct s) :
    ∃ n ∈ r.names, p ++ s <+: n ++ [' '] := by
  cases hlist : r.withPrefix p with
  | nil =>
    rw [complete_eq_noMatch_iff.mpr (.inr hlist)] at h
    cases h
  | cons n ns =>
    have hn : r.Matches p n := mem_withPrefix.mp (hlist ▸ List.mem_cons_self)
    exact ⟨n, hn.1, isPrefix_of_complete_direct h hn⟩

/-- A choice is a choice between all matches. -/
theorem withPrefix_of_complete_choice {ns : List Text} (h : r.complete p = .choice ns) :
    ns = r.withPrefix p := by
  have hp : p ≠ [] := by
    rintro rfl
    cases h
  unfold complete at h
  rw [if_neg hp] at h
  split at h
  · cases h
  · cases h
  · next hlist =>
    dsimp only at h
    split at h
    · cases h
    · rw [hlist]
      exact (Completion.choice.inj h).symm

end Registry

/-! ## Cuts at offsets in bytes -/

namespace Text

/-- The number of bytes of a text. -/
def byteLength (s : Text) : Nat := (Utf8.encode s).length

/-- Cuts a text after its first `n` bytes; nothing, if the cut would fall inside a character or
    beyond the end. -/
def cutAt? : Nat → Text → Option (Text × Text)
  | 0, s => some ([], s)
  | _ + 1, [] => none
  | n + 1, c :: s =>
    if (Utf8.encodeChar c).length ≤ n + 1 then
      (cutAt? (n + 1 - (Utf8.encodeChar c).length) s).map fun (a, b) => (c :: a, b)
    else none

/-- The offset in bytes of the first character of a text that differs from the one at its place in
    another text, counted from `i` on. -/
def firstDifference (i : Nat) : Text → Text → Option Nat
  | a :: s, b :: t =>
    if a = b then firstDifference (i + (Utf8.encodeChar a).length) s t else some i
  | _, _ => none

/-- The offset in bytes at which two texts part: at their first difference, or at the end of the
    shorter one. -/
def commonEnd (s t : Text) : Nat :=
  (firstDifference 0 s t).getD (min s.byteLength t.byteLength)

/-- The common start of two texts, cut off the first one at an offset in bytes. -/
def commonByOffset (s t : Text) : Option Text := (cutAt? (commonEnd s t) s).map Prod.fst

end Text

/-- Completes a typed prefix by offsets in bytes alone; nothing, if a cut falls inside a
    character. -/
def Registry.completeByOffset (r : Registry) (p : Text) : Option Completion :=
  if p = [] then some .noMatch
  else match r.withPrefix p with
    | [] => some .noMatch
    | [only] => (Text.cutAt? p.byteLength only).map fun cut => .direct (cut.2 ++ [' '])
    | first :: second :: rest =>
      ((second :: rest).foldlM Text.commonByOffset first).bind fun shared =>
        if p.byteLength < shared.byteLength then
          (Text.cutAt? p.byteLength shared).map fun cut => .direct cut.2
        else some (.choice (first :: second :: rest))

namespace Text

theorem byteLength_cons (c : Char) (s : Text) :
    byteLength (c :: s) = (Utf8.encodeChar c).length + byteLength s := by
  simp [byteLength]

theorem byteLength_append (s t : Text) : byteLength (s ++ t) = byteLength s + byteLength t := by
  simp [byteLength]

theorem length_encodeChar_pos (c : Char) : 0 < (Utf8.encodeChar c).length := by
  unfold Utf8.encodeChar
  dsimp only
  split
  · simp
  · split
    · simp
    · split <;> simp

theorem byteLength_pos {s : Text} (h : s ≠ []) : 0 < s.byteLength := by
  cases s with
  | nil => exact absurd rfl h
  | cons c s =>
    have := length_encodeChar_pos c
    rw [byteLength_cons]
    omega

/-- **A cut between two parts** succeeds: the offset of a part is on the boundary of a character. -/
theorem cutAt?_append (a b : Text) : cutAt? a.byteLength (a ++ b) = some (a, b) := by
  induction a with
  | nil => simp [byteLength, cutAt?]
  | cons c a ih =>
    have hpos := length_encodeChar_pos c
    obtain ⟨n, hn⟩ : ∃ n, byteLength (c :: a) = n + 1 :=
      ⟨byteLength (c :: a) - 1, by rw [byteLength_cons]; omega⟩
    have hlen : n + 1 = (Utf8.encodeChar c).length + byteLength a := by
      rw [← hn, byteLength_cons]
    rw [hn, List.cons_append, cutAt?, if_pos (by omega), hlen, Nat.add_sub_cancel_left, ih]
    rfl

/-- **A cut that succeeds** is made at the offset, and no cut succeeds elsewhere. -/
theorem cutAt?_eq_some_iff {n : Nat} {s a b : Text} :
    cutAt? n s = some (a, b) ↔ s = a ++ b ∧ a.byteLength = n := by
  constructor
  · intro h
    have hzero {s a : Text} (h : cutAt? 0 s = some (a, b)) : s = a ++ b ∧ a.byteLength = 0 := by
      rw [cutAt?] at h
      obtain ⟨rfl, rfl⟩ := Prod.mk.inj (Option.some.inj h)
      exact ⟨rfl, rfl⟩
    induction s generalizing n a with
    | nil =>
      cases n with
      | zero => exact hzero h
      | succ n => cases h
    | cons c s ih =>
      cases n with
      | zero => exact hzero h
      | succ n =>
        rw [cutAt?] at h
        split at h
        · next hle =>
          obtain ⟨⟨a', b'⟩, hcut, heq⟩ := Option.map_eq_some_iff.mp h
          obtain ⟨rfl, rfl⟩ := Prod.mk.inj heq
          obtain ⟨rfl, hlength⟩ := ih hcut
          refine ⟨rfl, ?_⟩
          rw [byteLength_cons]
          omega
        · cases h
  · rintro ⟨rfl, rfl⟩
    exact cutAt?_append a b

/-- Where a first difference lies, and what it means that there is none. -/
theorem firstDifference_eq (i : Nat) (s t : Text) :
    (∀ j, firstDifference i s t = some j → j = i + (common s t).byteLength) ∧
    (firstDifference i s t = none → (common s t).byteLength = min s.byteLength t.byteLength) := by
  fun_induction firstDifference i s t with
  | case1 i a s t ih =>
    rw [common, if_pos rfl, byteLength_cons, byteLength_cons, byteLength_cons]
    refine ⟨fun j hj => ?_, fun hnone => ?_⟩
    · rw [ih.1 j hj]
      omega
    · rw [ih.2 hnone]
      omega
  | case2 i a s b t hne =>
    rw [common, if_neg hne]
    exact ⟨fun j hj => (Option.some.inj hj).symm, fun hnone => nomatch hnone⟩
  | case3 s i t hcons =>
    refine ⟨fun j hj => (nomatch hj), fun _ => ?_⟩
    match s, t with
    | [], t => simp [common, byteLength]
    | _ :: _, [] => simp [common, byteLength]
    | a :: s, b :: t => exact (hcons a s b t rfl rfl).elim

/-- **Two texts part at the end of their common start**, which is the boundary of a character. -/
theorem commonEnd_eq (s t : Text) : commonEnd s t = (common s t).byteLength := by
  obtain ⟨hsome, hnone⟩ := firstDifference_eq 0 s t
  unfold commonEnd
  cases h : firstDifference 0 s t with
  | none => rw [Option.getD_none, hnone h]
  | some j => rw [Option.getD_some, hsome j h, Nat.zero_add]

/-- **The cut at that offset** always succeeds, and gives the common start. -/
theorem commonByOffset_eq (s t : Text) : commonByOffset s t = some (common s t) := by
  obtain ⟨u, hu⟩ := common_isPrefix_left s t
  have hcut : cutAt? (commonEnd s t) s = some (common s t, u) := by
    rw [commonEnd_eq]
    exact cutAt?_eq_some_iff.mpr ⟨hu.symm, rfl⟩
  rw [commonByOffset, hcut]
  rfl

theorem foldlM_commonByOffset (n : Text) (ns : List Text) :
    ns.foldlM commonByOffset n = some (ns.foldl common n) := by
  induction ns generalizing n with
  | nil => rfl
  | cons m ns ih =>
    rw [List.foldlM_cons, commonByOffset_eq, List.foldl_cons]
    exact ih (common n m)

end Text

namespace Registry

/-- What starts with a text, and only it, has at least as many bytes; more of them if it has more
    characters. -/
theorem byteLength_lt_iff {p s : Text} (h : p <+: s) :
    Text.byteLength p < Text.byteLength s ↔ p.length < s.length := by
  obtain ⟨t, rfl⟩ := h
  rw [Text.byteLength_append, List.length_append]
  by_cases ht : t = []
  · simp [ht, Text.byteLength]
  · have hbytes := Text.byteLength_pos ht
    have hchars := List.length_pos_iff.mpr ht
    omega

/-- **No cut of completion falls inside a character**, and the cuts at offsets in bytes give the
    answer that the cuts between characters give. -/
theorem completeByOffset_eq (r : Registry) (p : Text) :
    r.completeByOffset p = some (r.complete p) := by
  have hcut : ∀ s, p <+: s → Text.cutAt? p.byteLength s = some (p, s.drop p.length) := by
    rintro s ⟨t, rfl⟩
    rw [Text.cutAt?_append, List.drop_left]
  unfold completeByOffset complete
  by_cases hp : p = []
  · simp [hp]
  · simp only [hp, if_false]
    have hmatch : ∀ n ∈ r.withPrefix p, p <+: n := fun n hn => (mem_withPrefix.mp hn).2
    rcases hlist : r.withPrefix p with _ | ⟨first, _ | ⟨second, rest⟩⟩
    · rfl
    · have hfirst : p <+: first := hmatch first (hlist ▸ List.mem_cons_self)
      show (Text.cutAt? p.byteLength first).map _ = _
      rw [hcut first hfirst]
      rfl
    · have hpre : p <+: (second :: rest).foldl Text.common first :=
        Text.isPrefix_foldl_common_iff.mpr fun m hm => hmatch m (hlist ▸ hm)
      show ((second :: rest).foldlM Text.commonByOffset first).bind _ = _
      rw [Text.foldlM_commonByOffset, Option.bind_some]
      simp only [byteLength_lt_iff hpre, hcut _ hpre, Option.map_some]
      split <;> rfl

/-- Names that part between two characters with the same first byte. -/
example : (ofNames ["caf\u00E9".toList, "caf\u00E8".toList]).completeByOffset ['c'] =
    some (.direct ['a', 'f']) := by decide

/-! ## Exactness -/

/-- **Completion is exact.** Nothing is offered for no text and for no match; one match is completed
    to the whole name and a space; several are extended to their longest common start, and are
    offered in order if that adds nothing. Made at offsets in bytes, every cut on the way is on the
    boundary of a character, for any two texts and any known names. -/
theorem complete_exact (r : Registry) (p : Text) :
    (r.complete p = .noMatch ↔ p = [] ∨ ∀ n, ¬ r.Matches p n) ∧
    (∀ n, p ≠ [] → (∀ m, r.Matches p m ↔ m = n) →
      ∃ s, r.complete p = .direct s ∧ p ++ s = n ++ [' ']) ∧
    (∀ n m, p ≠ [] → r.Matches p n → r.Matches p m → n ≠ m →
      ∃ l, Text.IsLongestShared (r.Matches p) l ∧ (l = p ∨ p.length < l.length) ∧
        (p.length < l.length → ∃ s, r.complete p = .direct s ∧ p ++ s = l) ∧
        (l = p → ∃ ns, r.complete p = .choice ns ∧ (∀ x, x ∈ ns ↔ r.Matches p x) ∧
          ns.Pairwise (· < ·))) ∧
    (∀ s t, Text.commonByOffset s t = some (Text.common s t)) ∧
    r.completeByOffset p = some (r.complete p) := by
  refine ⟨?_, ?_, ?_, Text.commonByOffset_eq, completeByOffset_eq r p⟩
  · rw [complete_eq_noMatch_iff, withPrefix_eq_nil_iff]
  · intro n hp hn
    exact complete_of_only hp (withPrefix_eq_singleton hn)
  · intro n m hp hn hm hne
    obtain ⟨first, second, rest, h⟩ := withPrefix_eq_cons_cons hn hm hne
    obtain ⟨hpre, hextend, hoffer⟩ := complete_of_several hp h
    have hmem : ∀ x, x ∈ first :: second :: rest ↔ r.Matches p x := fun x => h ▸ mem_withPrefix
    refine ⟨_, Text.foldl_common_isLongestShared hmem, ?_, hextend, fun heq => ?_⟩
    · rcases Nat.lt_or_ge p.length ((second :: rest).foldl Text.common first).length with hlt | hge
      · exact .inr hlt
      · exact .inl (hpre.eq_of_length_le hge).symm
    · exact ⟨first :: second :: rest, hoffer heq, hmem, h ▸ pairwise_withPrefix⟩

end Registry

end CommandShell
