import CommandShell.Completion.Registry

/-!
# `CommandShell.Completion.Basic` — what Tab offers

The completion of a typed prefix against the known names: nothing, some text to add, or a choice
between several names.

## Contents
- **Common start.** `Text.common`, the longest text that two texts both start with;
  `common_isPrefix_left` and `common_isPrefix_right` say that both do.
- **Completion.** `Registry.complete`. The only match is completed to the whole name and a space;
  several matches are extended as far as they agree, and are offered as a choice when they agree no
  further.
-/

namespace CommandShell

/-- The longest text that both texts start with. -/
def Text.common : Text → Text → Text
  | a :: s, b :: t => if a = b then a :: Text.common s t else []
  | _, _ => []

theorem Text.common_isPrefix_left (s t : Text) : Text.common s t <+: s := by
  fun_induction Text.common s t with
  | case1 a s t ih => exact List.cons_prefix_cons.mpr ⟨rfl, ih⟩
  | case2 => exact List.nil_prefix
  | case3 => exact List.nil_prefix

theorem Text.common_isPrefix_right (s t : Text) : Text.common s t <+: t := by
  fun_induction Text.common s t with
  | case1 a s t ih => exact List.cons_prefix_cons.mpr ⟨rfl, ih⟩
  | case2 => exact List.nil_prefix
  | case3 => exact List.nil_prefix

/-- What Tab has to offer. -/
inductive Completion where
  /-- No known name starts with what was typed, or nothing was typed. -/
  | noMatch
  /-- This text can be added. -/
  | direct (suffix : Text)
  /-- These names all start with what was typed, and agree in nothing more. -/
  | choice (candidates : List Text)
  deriving DecidableEq, Repr

/-- Completes a typed prefix. -/
def Registry.complete (r : Registry) (p : Text) : Completion :=
  if p = [] then .noMatch
  else match r.withPrefix p with
    | [] => .noMatch
    | [only] => .direct (only.drop p.length ++ [' '])
    | first :: second :: rest =>
      let shared := (second :: rest).foldl Text.common first
      if p.length < shared.length then .direct (shared.drop p.length)
      else .choice (first :: second :: rest)

end CommandShell
