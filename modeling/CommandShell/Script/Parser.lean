import CommandShell.Script.Words

/-!
# `CommandShell.Script.Parser` — the statements of a script

Statements are read by recursive descent, with one token of foresight. Each level of the descent
takes a step, and a character is read at least every twelve levels, so twelve steps for each
character are enough.

## Contents
- **Keywords.** `Token.keyword?`: a word is a keyword only where a statement may begin or end.
- **Tokens.** `Parser.token` reads one; `Parser.unexpected` complains about one.
- **Simple commands.** `Parser.simple` takes assignments, words and redirections.
- **Statements.** `Parser.command` reads one with or without keywords, `Parser.pipeline` and
  `Parser.chain` join several, and `Parser.list` reads up to a token that ends a list.
- **Lines.** `Source.readLine` reads the statements up to the end of a line. A script is read line
  by line, so that the lines before one that cannot be read are carried out.
-/

namespace CommandShell

namespace Script

/-! ## Keywords -/

/-- The keywords that end a list of statements. -/
def closers : List Text :=
  ["then".toList, "elif".toList, "else".toList, "fi".toList, "do".toList, "done".toList,
   "esac".toList, ['\x7d']]

/-- The keywords that do not. -/
def openers : List Text :=
  ["if".toList, "while".toList, "until".toList, "for".toList, "case".toList, "in".toList,
   ['\x7b'], ['!']]

/-- The keywords. -/
def keywords : List Text := closers ++ openers

/-- The commands after whose failure a script does not go on. Their names are not free for
    functions. -/
def specialCommands : List Text :=
  [".".toList, ":".toList, "break".toList, "continue".toList, "eval".toList, "exec".toList,
   "exit".toList, "export".toList, "local".toList, "readonly".toList, "return".toList,
   "set".toList, "shift".toList, "times".toList, "trap".toList, "unset".toList]

/-- The keyword that a token is. -/
def Token.keyword? : Token → Option Text
  | .word w => (plain? w).filter fun s => keywords.contains s
  | _ => none

/-- Whether a token is a certain keyword. -/
def Token.isKeyword (t : Token) (k : String) : Bool := t.keyword? == some k.toList

/-- Whether a token ends a list of statements. -/
def Token.endsList (t : Token) : Bool :=
  match t with
  | .finish | .closing | .doubleSemicolon => true
  | _ => t.keyword?.any closers.contains

/-- A text between double quotes. -/
def shown (s : String) : Text := '"' :: s.toList ++ ['"']

/-- The name of a token in complaints. -/
def Token.label (t : Token) : Text :=
  match t with
  | .word _ => (t.keyword?.map fun k => '"' :: k ++ ['"']).getD "word".toList
  | .newline => "newline".toList
  | .semicolon => shown ";"
  | .doubleSemicolon => shown ";;"
  | .background => shown "&"
  | .and => shown "&&"
  | .or => shown "||"
  | .pipe => shown "|"
  | .opening => shown "("
  | .closing => shown ")"
  | .redirect _ _ _ => "redirection".toList
  | .finish => "end of file".toList

namespace Parser

/-! ## Tokens -/

/-- The operator at the start of a text, and its length. -/
def operator? : Text → Option (Token × Nat)
  | '\n' :: _ => some (.newline, 1)
  | ';' :: ';' :: _ => some (.doubleSemicolon, 2)
  | ';' :: _ => some (.semicolon, 1)
  | '&' :: '&' :: _ => some (.and, 2)
  | '&' :: _ => some (.background, 1)
  | '|' :: '|' :: _ => some (.or, 2)
  | '|' :: _ => some (.pipe, 1)
  | '(' :: _ => some (.opening, 1)
  | ')' :: _ => some (.closing, 1)
  | '>' :: '>' :: _ => some (.redirect 1 .append false, 2)
  | '>' :: '&' :: _ => some (.redirect 1 .duplicate false, 2)
  | '>' :: '|' :: _ => some (.redirect 1 .overwrite false, 2)
  | '>' :: _ => some (.redirect 1 .write false, 1)
  | '<' :: '<' :: '-' :: _ => some (.redirect 0 .here true, 3)
  | '<' :: '<' :: _ => some (.redirect 0 .here false, 2)
  | '<' :: '&' :: _ => some (.redirect 0 .duplicate false, 2)
  | '<' :: '>' :: _ => some (.redirect 0 .update false, 2)
  | '<' :: _ => some (.redirect 0 .read false, 1)
  | _ => none

/-- The redirection of a descriptor that is named by a digit in front, and its length. -/
def numbered? : Text → Option (Token × Nat)
  | d :: rest =>
    if d.isDigit then
      match operator? rest with
      | some (.redirect _ kind dropsTabs, length) =>
        some (.redirect (number [d]) kind dropsTabs, length + 1)
      | _ => none
    else none
  | [] => none

/-- Passes over blanks and a comment, in at most so many steps. -/
def skipBlanks : Nat → Reader Unit
  | 0 => return ()
  | n + 1 => do
    match ← Reader.peek? with
    | some c =>
      if c = ' ' ∨ c = '\t' then
        Reader.skip 1
        skipBlanks n
      else if c = '#' then
        let _ ← Reader.takeWhile (· != '\n')
    | none => return ()

/-- Reads a token. -/
def token (script text : Reader Statement) : Reader Token := do
  match (← get).given with
  | some t =>
    modify fun s => { s with given := none }
    return t
  | none =>
    skipBlanks (← get).rest.length
    match (← get).rest with
    | [] => return .finish
    | rest =>
      match operator? rest <|> numbered? rest with
      | some (.newline, _) =>
        let _ ← Reader.nextRaw?
        return .newline
      | some (t, length) =>
        Reader.skip length
        return t
      | none => return .word (← Words.parts script text (rest.length + 1) .open_)

/-- Complains about a token, with what was expected in its place. -/
def unexpected {α : Type} (t : Token) (expected : Option Text) : Reader α :=
  let hint := (expected.map fun e => " (expecting ".toList ++ e ++ ")".toList).getD []
  Reader.fail (t.label ++ " unexpected".toList ++ hint)

/-- Complains about a token where a word would be no keyword. -/
def unexpectedWord {α : Type} (t : Token) (expected : Text) : Reader α :=
  match t with
  | .word _ => Reader.fail ("word unexpected (expecting ".toList ++ expected ++ ")".toList)
  | t => unexpected t (some expected)

/-- Reads tokens up to one that is no line break, in at most so many steps. -/
def afterBreaks (next : Reader Token) : Nat → Reader Token
  | 0 => return .finish
  | n + 1 => do
    match ← next with
    | .newline => afterBreaks next n
    | t => return t

/-- Reads a token after line breaks. -/
def skipBreaks (next : Reader Token) : Reader Token := do
  afterBreaks next ((← get).rest.length + 2)

/-- Reads a keyword that is expected, after line breaks. -/
def expect (next : Reader Token) (k : String) : Reader Unit := do
  let t ← skipBreaks next
  if t.isKeyword k then return () else unexpected t (some (shown k))

/-- Reads a token where a command begins: an alias is replaced by its text, in at most so many
    steps. -/
def commandToken (next : Reader Token) : Nat → Reader Token
  | 0 => next
  | n + 1 => do
    let t ← next
    match t with
    | .word w =>
      let s ← get
      let name := ((plain? w).filter fun k => !keywords.contains k).getD []
      let isBusy := s.busy.any fun b => b.1 == name && b.2 ≤ s.rest.length
      match if isBusy then none else s.aliases.lookup name with
      | none => return t
      | some text =>
        let ends := text.getLast?.any fun c => c == ' ' || c == '\t'
        set { s with
          rest := text ++ s.rest
          busy := (name, s.rest.length) :: s.busy
          extended := if ends then some s.rest.length else s.extended }
        commandToken next n
    | _ => return t

/-- Reads a token where a command begins. -/
def firstToken (next : Reader Token) : Reader Token := do
  commandToken next ((← get).aliases.length + 1)

/-- Reads a token inside a simple command. An alias is replaced right after another one whose text
    ends with a blank. -/
def nextToken (next : Reader Token) : Reader Token := do
  let s ← get
  match s.extended with
  | none => next
  | some n =>
    if n < s.rest.length ∧ (s.rest.take (s.rest.length - n)).all (fun c => c == ' ' || c == '\t')
    then
      set { s with extended := none }
      firstToken next
    else next

/-! ## Simple commands -/

/-- The text of a word without its quotes. -/
def delimiter (w : Word) : Text :=
  w.flatMap fun p => match p with
    | .literal s _ => s
    | _ => []

/-- Whether any part of a word is quoted. -/
def hasQuotes (w : Word) : Bool :=
  w.any fun p => match p with
    | .literal _ quoted => quoted
    | _ => false

/-- Reads the target of a redirection. A here-document is taken out of the lines that follow; its
    parameters are left alone if its delimiter is quoted. -/
def redirect (script text : Reader Statement) (next : Reader Token) (descriptor : Nat)
    (kind : RedirectKind) (dropsTabs : Bool) : Reader (Redirect Word) := do
  match ← next with
  | .word w =>
    if kind = .here then
      let before ← get
      let (body, s) := before.cutHere (delimiter w) dropsTabs
      set s
      if hasQuotes w then return ⟨descriptor, kind, [.literal body true]⟩
      else
        let begun : Source := { rest := body, line := before.line + 1 + before.skipped }
        match (Words.parts script text (body.length + 1) .here).run begun with
        | .ok (word, _) => return ⟨descriptor, kind, word⟩
        | .error e => throw e
    else return ⟨descriptor, kind, w⟩
  | t => unexpected t none

/-- Reads redirections, in at most so many steps. -/
def redirects (script text : Reader Statement) (next : Reader Token) :
    Nat → Reader (List (Redirect Word))
  | 0 => return []
  | n + 1 => do
    match ← next with
    | .redirect descriptor kind dropsTabs =>
      let r ← redirect script text next descriptor kind dropsTabs
      return r :: (← redirects script text next n)
    | t =>
      Reader.giveBack t
      return []

/-- The pieces of a simple command. -/
structure Pieces where
  assignments : List (Text × Word) := []
  words : List Word := []
  redirects : List (Redirect Word) := []

/-- Reads the pieces of a simple command, in at most so many steps. Assignments stand in front of
    its other words. -/
def pieces (script text : Reader Statement) (next : Reader Token) :
    (begun : Bool) → Nat → Reader Pieces
  | _, 0 => return {}
  | begun, n + 1 => do
    match ← nextToken next with
    | .word w =>
      match if begun then none else assignment? w with
      | some a =>
        let p ← pieces script text next false n
        return { p with assignments := a :: p.assignments }
      | none =>
        let p ← pieces script text next true n
        return { p with words := w :: p.words }
    | .redirect descriptor kind dropsTabs =>
      let r ← redirect script text next descriptor kind dropsTabs
      let p ← pieces script text next begun n
      return { p with redirects := r :: p.redirects }
    | t =>
      Reader.giveBack t
      return {}

/-- Reads a simple command. -/
def simple (script text : Reader Statement) (next : Reader Token) (line : Nat) :
    Reader Statement := do
  let p ← pieces script text next false ((← get).rest.length + 2)
  let t ← next
  match t with
  | .opening => unexpected t none
  | _ =>
    Reader.giveBack t
    return .simple line p.assignments p.words p.redirects

/-! ## Loops and choices -/

/-- Reads words up to another token, in at most so many steps; also that token. -/
def words (next : Reader Token) : Nat → Reader (List Word × Token)
  | 0 => return ([], .finish)
  | n + 1 => do
    match ← next with
    | .word w =>
      let (ws, t) ← words next n
      return (w :: ws, t)
    | t => return ([], t)

/-- Reads the head of a loop after its keyword: the name, and the words if there are any. -/
def loopHead (next : Reader Token) : Reader (Text × Option (List Word)) := do
  match ← next with
  | .word w =>
    match (plain? w).filter isName with
    | none => Reader.fail "Bad for loop variable".toList
    | some name =>
      let t ← skipBreaks next
      if t.isKeyword "in" then
        match ← words next ((← get).rest.length + 2) with
        | (ws, .newline) | (ws, .semicolon) => return (name, some ws)
        | (_, t) => unexpected t none
      else
        match t with
        | .semicolon => return (name, none)
        | t =>
          Reader.giveBack t
          return (name, none)
  | _ => Reader.fail "Bad for loop variable".toList

/-- Reads the patterns of a clause, from the first token on up to the closing parenthesis, in at
    most so many steps. -/
def patterns (next : Reader Token) : Nat → Token → Reader (List Word)
  | 0, t => unexpected t none
  | n + 1, t => do
    let w := match t with
      | .word w => w
      | _ => []
    match ← next with
    | .pipe => return w :: (← patterns next n (← next))
    | .closing => return [w]
    | t => unexpectedWord t (shown ")")

/-! ## Statements -/

/-- A statement with redirections. -/
def redirected (line : Nat) (s : Statement) (rs : List (Redirect Word)) : Statement :=
  match s, rs with
  | s, [] => s
  | .inside at_ _ body, rs => .inside at_ rs body
  | s, rs => .redirected line rs s

mutual

/-- Reads a command with or without keywords. -/
def command : Nat → Reader Statement
  | 0 => Reader.fail "too deep".toList
  | n + 1 => do
    let script := inner n
    let text := list n true
    let next := token script text
    let ending := fun (line : Nat) (s : Statement) => do
      return redirected line s (← redirects script text next ((← get).rest.length + 2))
    let t ← firstToken next
    let line := (← get).line
    match t with
    | .opening =>
      let body ← list n false
      match ← next with
      | .closing => ending line (.inside line [] body)
      | t => unexpected t (some (shown ")"))
    | .redirect _ _ _ =>
      Reader.giveBack t
      simple script text next line
    | .word w =>
      if t.keyword?.isSome then keywordCommand n line t
      else if (assignment? w).isSome then
        Reader.giveBack t
        simple script text next line
      else
        match ← nextToken next with
        | .opening => function n w
        | other =>
          Reader.giveBack other
          let p ← pieces script text next true ((← get).rest.length + 2)
          match ← next with
          | .opening => unexpected .opening none
          | other =>
            Reader.giveBack other
            return .simple line p.assignments (w :: p.words) p.redirects
    | t => unexpected t none

/-- Reads a function after its name and an opening parenthesis. -/
def function : Nat → Word → Reader Statement
  | 0, _ => Reader.fail "too deep".toList
  | n + 1, w => do
    let next := token (inner n) (list n true)
    match ← next with
    | .closing =>
      match (plain? w).filter fun s => isName s && !specialCommands.contains s with
      | none => Reader.fail "Bad function name".toList
      | some name =>
        Reader.giveBack (← skipBreaks next)
        return .define name (← command n)
    | t => unexpectedWord t (shown ")")

/-- Reads a command that begins with a keyword, which has been read. -/
def keywordCommand : Nat → Nat → Token → Reader Statement
  | 0, _, _ => Reader.fail "too deep".toList
  | n + 1, line, t => do
    let script := inner n
    let text := list n true
    let next := token script text
    let ending := fun (s : Statement) => do
      return redirected line s (← redirects script text next ((← get).rest.length + 2))
    if t.isKeyword "if" then ending (← branch n)
    else if t.isKeyword "while" ∨ t.isKeyword "until" then
      let test ← list n false
      expect next "do"
      let body ← list n false
      expect next "done"
      ending (.loop (t.isKeyword "until") test body)
    else if t.isKeyword "for" then
      let (name, items) ← loopHead next
      expect next "do"
      let body ← list n false
      expect next "done"
      ending (.each line name items body)
    else if t.isKeyword "case" then
      match ← next with
      | .word subject =>
        expect next "in"
        ending (.choice line subject (← clauses n))
      | t => unexpected t (some "word".toList)
    else if t.isKeyword "\x7b" then
      let body ← list n false
      expect next "\x7d"
      ending body
    else unexpected t none

/-- Reads the clauses of a choice, and its closing keyword. -/
def clauses : Nat → Reader Statement
  | 0 => Reader.fail "too deep".toList
  | n + 1 => do
    let next := token (inner n) (list n true)
    let t ← skipBreaks next
    if t.isKeyword "esac" then return .nothing
    else
      let first ← match t with
        | .opening => next
        | t => pure t
      let ws ← patterns next ((← get).rest.length + 2) first
      let body ← list n true
      let t ← skipBreaks next
      if t.isKeyword "esac" then return .clause ws body .nothing
      else
        match t with
        | .doubleSemicolon => return .clause ws body (← clauses n)
        | t => unexpected t (some (shown ";;"))

/-- Reads a conditional after its first keyword. -/
def branch : Nat → Reader Statement
  | 0 => Reader.fail "too deep".toList
  | n + 1 => do
    let next := token (inner n) (list n true)
    let test ← list n false
    expect next "then"
    let yes ← list n false
    let t ← skipBreaks next
    if t.isKeyword "elif" then return .branch test yes (← branch n)
    else if t.isKeyword "else" then
      let no ← list n false
      expect next "fi"
      return .branch test yes no
    else if t.isKeyword "fi" then return .branch test yes .nothing
    else unexpected t (some (shown "fi"))

/-- Reads commands of which each reads what the one before it writes. -/
def pipes : Nat → Reader Statement
  | 0 => Reader.fail "too deep".toList
  | n + 1 => do
    let next := token (inner n) (list n true)
    let s ← command n
    match ← next with
    | .pipe =>
      Reader.giveBack (← skipBreaks next)
      return .pipe s (← pipes n)
    | t =>
      Reader.giveBack t
      return s

/-- Reads a pipeline, which may be negated, after line breaks. -/
def pipeline : Nat → Reader Statement
  | 0 => Reader.fail "too deep".toList
  | n + 1 => do
    let t ← skipBreaks (token (inner n) (list n true))
    if t.isKeyword "!" then return .opposite (← pipes n)
    else
      Reader.giveBack t
      pipes n

/-- Reads pipelines that are joined to a first one. -/
def chain : Nat → Statement → Reader Statement
  | 0, s => return s
  | n + 1, s => do
    match ← token (inner n) (list n true) with
    | .and => chain n (.both s (← pipeline n))
    | .or => chain n (.either s (← pipeline n))
    | t =>
      Reader.giveBack t
      return s

/-- Reads statements up to a token that ends a list; `empty` says whether there may be none. -/
def list : Nat → (empty : Bool) → Reader Statement
  | 0, _ => Reader.fail "too deep".toList
  | n + 1, empty => do
    let next := token (inner n) (list n true)
    let t ← skipBreaks next
    Reader.giveBack t
    match t with
    | .finish => return .nothing
    | t =>
      if empty ∧ t.endsList then return .nothing
      else
        let line := (← get).line
        let s ← chain n (← pipeline n)
        match ← next with
        | .newline | .semicolon => return s.followedBy (← list n true)
        | .background => return (Statement.background line s).followedBy (← list n true)
        | t =>
          Reader.giveBack t
          return s

/-- Reads statements up to a closing parenthesis, and that parenthesis. -/
def inner : Nat → Reader Statement
  | 0 => Reader.fail "too deep".toList
  | n + 1 => do
    let outside := (← get).given
    modify fun s => { s with given := none }
    let s ← list n true
    match ← token (inner n) (list n true) with
    | .closing =>
      modify fun s => { s with given := outside }
      return s
    | t => unexpected t (some (shown ")"))

end

/-- The steps that are enough to read a text. -/
def steps (text : Text) : Nat := 12 * (text.length + 2)

/-- Reads the statements up to the end of a line, after a first one if there is any, in at most so
    many steps. -/
def lineFrom : Nat → Reader Statement
  | 0 => return .nothing
  | n + 1 => do
    let fuel := steps (← get).rest
    let next := token (inner fuel) (list fuel true)
    match ← next with
    | .newline => return .nothing
    | .finish =>
      Reader.giveBack .finish
      return .nothing
    | t =>
      Reader.giveBack t
      let line := (← get).line
      let s ← chain fuel (← pipeline fuel)
      match ← next with
      | .newline => return s
      | .finish =>
        Reader.giveBack .finish
        return s
      | .semicolon => return s.followedBy (← lineFrom n)
      | .background => return (Statement.background line s).followedBy (← lineFrom n)
      | t => unexpected t none

end Parser

/-! ## Lines -/

namespace Source

/-- The source of a script. -/
def ofText (text : Text) : Source := { rest := text }

/-- Whether the end of the script has been met, so that nothing can be added to it. -/
def isFinished (s : Source) : Bool :=
  match s.given with
  | some .finish => true
  | _ => false

/-- Reads a text in which parameters are replaced and nothing else is. -/
def readText (text : Text) : Except SyntaxError Word := do
  let n := Parser.steps text
  let (w, _) ← (Words.parts (Parser.inner n) (Parser.list n true) (text.length + 1) .here).run
    (ofText text)
  return w

/-- Reads the statements of a line. -/
def readLine (s : Source) : Except SyntaxError (Statement × Source) :=
  (Parser.lineFrom (s.rest.length + 1)).run { s with given := none }

end Source

end Script

end CommandShell
