import CommandShell.Script.Syntax

/-!
# `CommandShell.Script.Pattern` — patterns of texts

A pattern stands for a set of texts: for names of files, for the subjects of a choice, and for what
is taken away from the value of a parameter.

## Contents
- **Marks.** `Mark`, a character that may be quoted; a quoted one stands for itself, and so does one
  after a backslash that is not quoted.
- **Patterns.** `Pattern.Item` and `Pattern.ofMarks`.
- **Matching.** `Pattern.accepts`; `Pattern.dropFront` and `Pattern.dropBack` take the shortest or
  the longest match away.
-/

namespace CommandShell

namespace Script

/-! ## Marks -/

/-- A character, and whether it is quoted. -/
structure Mark where
  char : Char
  quoted : Bool
  deriving DecidableEq, Repr

namespace Mark

/-- The marks of a text. -/
def ofText (quoted : Bool) (s : Text) : List Mark := s.map fun c => ⟨c, quoted⟩

/-- The text of some marks. -/
def toText (ms : List Mark) : Text := ms.map Mark.char

/-- Whether a mark is a character that is not quoted. -/
def isBare (m : Mark) (c : Char) : Bool := m.char == c && !m.quoted

end Mark

/-! ## Patterns -/

namespace Pattern

/-- A set of characters. -/
inductive Class where
  | range (first last : Char)
  | named (name : Text)
  deriving DecidableEq, Repr

/-- An item of a pattern. -/
inductive Item where
  | char (c : Char)
  /-- Any one character. -/
  | one
  /-- Any characters. -/
  | many
  /-- A character of one of some classes or, if negated, of none of them. -/
  | set (negated : Bool) (classes : List Class)
  deriving DecidableEq, Repr

/-- Whether a character belongs to a class. -/
def Class.contains (c : Char) : Class → Bool
  | .range first last => first ≤ c && c ≤ last
  | .named name =>
    if name = "alpha".toList then c.isAlpha
    else if name = "digit".toList then c.isDigit
    else if name = "alnum".toList then c.isAlphanum
    else if name = "upper".toList then c.isUpper
    else if name = "lower".toList then c.isLower
    else if name = "space".toList then c ∈ [' ', '\t', '\n', '\x0b', '\x0c', '\r']
    else if name = "blank".toList then c = ' ' || c = '\t'
    else if name = "punct".toList then '!' ≤ c && c ≤ '~' && !c.isAlphanum
    else if name = "xdigit".toList then
      c.isDigit || ('a' ≤ c && c ≤ 'f') || ('A' ≤ c && c ≤ 'F')
    else if name = "cntrl".toList then c.toNat < 32 || c.toNat == 127
    else if name = "print".toList then ' ' ≤ c && c ≤ '~'
    else if name = "graph".toList then '!' ≤ c && c ≤ '~'
    else false

/-- The classes up to a closing bracket that is not the first, and what follows it; nothing, if
    there is none. In at most so many steps. -/
def classesFrom? (first : Bool) : Nat → List Mark → Option (List Class × List Mark)
  | 0, _ => none
  | _ + 1, [] => none
  | n + 1, m :: rest =>
    if m.isBare ']' ∧ first = false then some ([], rest)
    else
      let name := (rest.drop 1).takeWhile fun d => !d.isBare ':'
      let closing := (rest.drop (name.length + 1)).take 2
      if m.isBare '[' ∧ rest.head?.any (·.isBare ':') ∧ Mark.toText closing = ":]".toList then
        (classesFrom? false n (rest.drop (name.length + 3))).map fun (cs, after) =>
          (.named (Mark.toText name) :: cs, after)
      else match rest with
        | dash :: last :: after =>
          if dash.isBare '-' ∧ !last.isBare ']' then
            (classesFrom? false n after).map fun (cs, after) =>
              (.range m.char last.char :: cs, after)
          else (classesFrom? false n rest).map fun (cs, after) =>
            (.range m.char m.char :: cs, after)
        | _ => (classesFrom? false n rest).map fun (cs, after) =>
          (.range m.char m.char :: cs, after)

/-- The set after an opening bracket, and what follows it, if the bracket is closed. -/
def setFrom? (ms : List Mark) : Option (Item × List Mark) :=
  let negated := ms.head?.any fun m => m.isBare '!' || m.isBare '^'
  let inside := if negated then ms.drop 1 else ms
  (classesFrom? true (inside.length + 1) inside).map fun (cs, after) => (.set negated cs, after)

/-- The items of a pattern, in at most so many steps. -/
def itemsFrom : Nat → List Mark → List Item
  | 0, _ => []
  | _ + 1, [] => []
  | n + 1, m :: rest =>
    if m.isBare '\\' ∧ rest ≠ [] then
      (rest.take 1).map (fun d => .char d.char) ++ itemsFrom n (rest.drop 1)
    else if m.isBare '*' then .many :: itemsFrom n rest
    else if m.isBare '?' then .one :: itemsFrom n rest
    else match if m.isBare '[' then setFrom? rest else none with
      | some (s, after) => s :: itemsFrom n after
      | none => .char m.char :: itemsFrom n rest

/-- The items of a pattern. -/
def ofMarks (ms : List Mark) : List Item := itemsFrom ms.length ms

/-- Whether some marks hold a character with a meaning in patterns. -/
def isPattern (ms : List Mark) : Bool :=
  ms.any fun m => m.isBare '*' || m.isBare '?' || m.isBare '['

/-! ## Matching -/

/-- Whether a character is one that an item stands for. -/
def Item.accepts (c : Char) : Item → Bool
  | .char d => c == d
  | .one | .many => true
  | .set negated classes => classes.any (Class.contains c) != negated

/-- Whether a pattern stands for a text. -/
def accepts : List Item → Text → Bool
  | [], s => s = []
  | .many :: rest, s => (List.range (s.length + 1)).any fun n => accepts rest (s.drop n)
  | _ :: _, [] => false
  | item :: rest, c :: s => item.accepts c && accepts rest s

example : accepts (ofMarks (Mark.ofText false "a*[!b]?".toList)) "axxcd".toList = true := by
  decide +kernel

/-- A text without the shortest or longest part at its front that a pattern stands for. -/
def dropFront (longest : Bool) (items : List Item) (s : Text) : Text :=
  let lengths := List.range (s.length + 1)
  match (if longest then lengths.reverse else lengths).find? fun n => accepts items (s.take n) with
  | some n => s.drop n
  | none => s

/-- A text without the shortest or longest part at its back that a pattern stands for. -/
def dropBack (longest : Bool) (items : List Item) (s : Text) : Text :=
  let lengths := List.range (s.length + 1)
  match (if longest then lengths else lengths.reverse).find? fun n => accepts items (s.drop n) with
  | some n => s.take n
  | none => s

end Pattern

end Script

end CommandShell
