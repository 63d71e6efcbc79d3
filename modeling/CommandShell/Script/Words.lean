import CommandShell.Script.Source

/-!
# `CommandShell.Script.Words` — reading words

A word is read up to a character that ends it; quotes, braces and parentheses inside it are read up
to what closes them.

## Contents
- **Contexts.** `Context` says where a character stands, and what ends the reading there.
- **Parameters.** `Words.braced` reads a parameter in braces, up to the word that its use may take.
- **Words.** `Words.parts` reads the parts of a word. The statements of a script inside a word are
  read by `script`, which its caller provides.
-/

namespace CommandShell

namespace Script

/-! ## Contexts -/

/-- Where the characters of a word stand. -/
inductive Context where
  /-- Anywhere outside quotes; a blank or an operator ends the word. -/
  | open_
  /-- In the braces of a parameter. -/
  | braces
  /-- Between double quotes. -/
  | quotes
  /-- In the braces of a parameter between double quotes. Double quotes inside the braces keep a
      closing brace from ending them. -/
  | quotedBraces (inner : Bool)
  /-- In an arithmetic expression, with so many parentheses open. -/
  | arithmetic (depth : Nat)
  /-- In the lines of a here-document. -/
  | here
  deriving DecidableEq, Repr

/-- Whether characters are quoted in a context. -/
def Context.isQuoted : Context → Bool
  | .open_ | .braces => false
  | _ => true

/-- The context of the word that the use of a parameter takes. -/
def Context.insideBraces (c : Context) : Context :=
  if c.isQuoted then .quotedBraces false else .braces

/-- The character that marks the output of a script on both sides. -/
def backquote : Char := Char.ofNat 0x60

/-- The characters that end a word. -/
def endsWord (c : Char) : Bool := c ∈ [' ', '\t', '\n', ';', '&', '|', '<', '>', '(', ')']

/-- Whether a backslash quotes a character in a quoted context; elsewhere it quotes all. -/
def Context.escapes (c : Context) (d : Char) : Bool :=
  if c.isQuoted then
    d ∈ ['$', '\\', backquote] || (d == '"' && c != .here) ||
      (d == '\x7d' && match c with | .quotedBraces _ => true | _ => false)
  else true

/-! ## Parameters -/

/-- The parameters that are called by one character that is no letter. -/
def isSpecialName (c : Char) : Bool := c.isDigit || c ∈ ['#', '@', '*', '?', '$', '!', '-']

/-- The name of a parameter at the start of a text, written in braces. -/
def parameterName (s : Text) : Text :=
  match s with
  | [] => []
  | c :: _ =>
    if startsName c then s.takeWhile inName
    else if c.isDigit then s.takeWhile Char.isDigit
    else if isSpecialName c then [c] else []

/-- The parameter whose length a text in braces asks for after a number sign. -/
def lengthOf? (s : Text) : Option Text :=
  match s with
  | [] | '\x7d' :: _ => none
  | c :: rest =>
    let name := parameterName s
    if inName c then some name
    else if rest.head? = some '\x7d' then some name else none

/-- The use of a parameter that a text after its name begins with, the length of what is written for
    it, and whether it takes a pattern. A word follows. -/
def useOf? : Text → Option ((Word → Use) × Nat × Bool)
  | ':' :: '-' :: _ => some (.fallback true, 2, false)
  | ':' :: '=' :: _ => some (.assign true, 2, false)
  | ':' :: '?' :: _ => some (.demand true, 2, false)
  | ':' :: '+' :: _ => some (.replace true, 2, false)
  | '-' :: _ => some (.fallback false, 1, false)
  | '=' :: _ => some (.assign false, 1, false)
  | '?' :: _ => some (.demand false, 1, false)
  | '+' :: _ => some (.replace false, 1, false)
  | '#' :: '#' :: _ => some (.dropFront true, 2, true)
  | '#' :: _ => some (.dropFront false, 1, true)
  | '%' :: '%' :: _ => some (.dropBack true, 2, true)
  | '%' :: _ => some (.dropBack false, 1, true)
  | _ => none

namespace Words

/-- Reads a parameter after its opening brace: its name, and what its use is made from. Without a
    word to follow, the closing brace has been read too. -/
def braced : Reader (Text × (Use ⊕ ((Word → Use) × Bool))) := do
  let s := (← get).rest
  let measured := match s with
    | '#' :: more => lengthOf? more
    | _ => none
  match measured with
  | some name =>
    Reader.skip (name.length + 1)
    if name ≠ [] ∧ (← get).rest.head? = some '\x7d' then
      Reader.skip 1
      return (name, .inl .length)
    else return ([], .inr (fun _ => .unknown, false))
  | none =>
    let name := parameterName s
    Reader.skip name.length
    let rest := (← get).rest
    if name = [] then return ([], .inr (fun _ => .unknown, false))
    else if rest.head? = some '\x7d' then
      Reader.skip 1
      return (name, .inl .value)
    else match useOf? rest with
      | none =>
        match rest with
        | ':' :: '\x7d' :: _ =>
          Reader.skip 2
          return (name, .inr (fun _ => .value, false))
        | c :: _ =>
          Reader.skip (if c = ':' then 2 else 1)
          return ([], .inr (fun _ => .unknown, false))
        | [] => return ([], .inr (fun _ => .unknown, false))
      | some (use, length, isPattern) =>
        Reader.skip length
        return (name, .inr (use, isPattern))

/-! ## Words -/

/-- Reads up to a single quote. -/
def singleQuoted : Reader Text := do
  let inside := (← get).rest.takeWhile (· != '\'')
  modify fun s => { s with
    rest := s.rest.drop inside.length, line := s.line + inside.count '\n' }
  match ← Reader.nextRaw? with
  | none => Reader.fail "Unterminated quoted string".toList
  | some _ => return inside

/-- Reads a script between backquotes, in at most so many steps. A backslash before another one,
    before a dollar sign and before a backquote is not a part of the script; inside double quotes
    that holds before a double quote too. -/
def backquoted (quoted : Bool) : Nat → Reader Text
  | 0 => Reader.fail "EOF in backquote substitution".toList
  | n + 1 => do
    match ← Reader.next? with
    | none => Reader.fail "EOF in backquote substitution".toList
    | some c =>
      if c = backquote then return []
      else if c = '\\' then
        match ← Reader.nextRaw? with
        | none => Reader.fail "EOF in backquote substitution".toList
        | some d =>
          if d = '\\' ∨ d = '$' ∨ d = backquote ∨ (quoted ∧ d = '"') then
            return d :: (← backquoted quoted n)
          else return c :: d :: (← backquoted quoted n)
      else return c :: (← backquoted quoted n)

/-- What the end of a script means in a context. -/
def finish (c : Context) : Reader Word :=
  match c with
  | .open_ | .here => return []
  | .braces => Reader.fail "Missing '\x7d'".toList
  | .arithmetic _ => Reader.fail "Missing '))'".toList
  | .quotes | .quotedBraces _ => Reader.fail "Unterminated quoted string".toList

/-- The parts between double quotes as parts of a word. There is a field even if there is nothing
    between them, unless all of it is the list of the positional parameters. -/
def ofQuotes (inside : Word) : Word :=
  match inside with
  | [.parameter ['@'] .value true] => inside
  | _ => Part.before (.literal [] true) inside

/-- Reads a part that begins with a dollar sign, which has been read; `more` reads the parts in a
    context. -/
def dollar (script : Reader Statement) (more : Context → Reader Word) (c : Context) :
    Reader Part := do
  let quoted := c.isQuoted
  match ← Reader.peek? with
  | some '(' =>
    Reader.skip 1
    match ← Reader.peek? with
    | some '(' =>
      Reader.skip 1
      return .number (← more (.arithmetic 0)) quoted
    | _ => return .output (← script) quoted
  | some '\x7b' =>
    Reader.skip 1
    let _ ← Reader.peek?
    match ← braced with
    | (name, .inl use) => return .parameter name use quoted
    | (name, .inr (use, isPattern)) =>
      let word ← more (if isPattern then .braces else c.insideBraces)
      return .parameter name (use word) quoted
  | some d =>
    if startsName d then return .parameter (← Reader.takeWhile inName) .value quoted
    else if isSpecialName d then
      Reader.skip 1
      return .parameter [d] .value quoted
    else return .literal ['$'] quoted
  | none => return .literal ['$'] quoted

/-- Reads the statements of a whole text that stands on the line being read. -/
def readWhole (script : Reader Statement) (text : Text) : Reader Statement := do
  let s ← get
  match script.run { rest := text, line := s.line, aliases := s.aliases } with
  | .ok (statement, _) => return statement
  | .error e => throw e

/-- Reads the parts of a word in a context, in at most so many steps. `script` reads statements up
    to a closing parenthesis, and `text` those of a whole text. -/
def parts (script text : Reader Statement) : Nat → Context → Reader Word
  | 0, c => finish c
  | n + 1, c => do
    let more := parts script text n c
    let literal := fun (d : Char) => return Part.before (.literal [d] c.isQuoted) (← more)
    match ← Reader.peek? with
    | none => finish c
    | some d =>
      if c = .open_ ∧ endsWord d then return []
      else
        let _ ← Reader.nextRaw?
        if d = '$' then
          let p ← dollar script (parts script text n) c
          return Part.before p (← more)
        else if d = backquote then
          let inside ← backquoted c.isQuoted n
          let statement ← readWhole text inside
          return Part.before (.output statement c.isQuoted) (← more)
        else if d = '\\' then
          match ← Reader.nextRaw? with
          | none => return [.literal ['\\'] true]
          | some e =>
            let kept := if c.escapes e then [e] else ['\\', e]
            return Part.before (.literal kept true) (← more)
        else match c with
          | .open_ | .braces =>
            if d = '\x7d' ∧ c = .braces then return []
            else if d = '\'' then
              let inside ← singleQuoted
              return Part.before (.literal inside true) (← more)
            else if d = '"' then
              let inside ← parts script text n .quotes
              return Word.followedBy (ofQuotes inside) (← more)
            else literal d
          | .quotes => if d = '"' then return [] else literal d
          | .quotedBraces inner =>
            if d = '"' then parts script text n (.quotedBraces !inner)
            else if d = '\x7d' ∧ inner = false then return []
            else literal d
          | .here => literal d
          | .arithmetic depth =>
            if d = '(' then
              let ps ← parts script text n (.arithmetic (depth + 1))
              return Part.before (.literal [d] true) ps
            else if d = ')' then
              if 0 < depth then
                return Part.before (.literal [d] true)
                  (← parts script text n (.arithmetic (depth - 1)))
              else if (← Reader.peek?) = some ')' then
                Reader.skip 1
                return []
              else literal d
            else literal d

end Words

end Script

end CommandShell
