import DiagServer.Posix.Shell.Word

/-!
# Reading commands

A script is read one complete command at a time: the commands of a line, and of the lines below
as far as one of them is not closed. A word without quotes that is one of the shell's own opens
or closes a command where a command may start, and is a plain word anywhere else. The readers
call each other, so each takes a bound for the depth of the calls.
-/

namespace DiagServer.Posix.Shell

/-! ## Tokens -/

/-- The words that have a meaning of their own. -/
def keywords : List String :=
  ["!", "case", "do", "done", "elif", "else", "esac", "fi", "for", "if", "in", "then", "until",
    "while", "\x7b", "\x7d"]

/-- The commands that are part of the language; no function can have their names. -/
def specialNames : List String :=
  [".", ":", "break", "continue", "eval", "exec", "exit", "export", "local", "readonly", "return",
    "set", "shift", "times", "trap", "unset"]

/-- The keyword that a word is, if it is one. -/
def keyword? (w : Word) : Option String :=
  match w.bareText? with
  | some s => keywords.find? (·.toList = s)
  | none => none

/-- What to look for in the next token. -/
structure Expect where
  /-- Whether ends of lines are passed over. -/
  newlines : Bool := false
  /-- Whether words of the shell count. -/
  keywords : Bool := false
  /-- Whether names that stand for texts are replaced. -/
  aliases : Bool := false

/-- What a command can start with. -/
def Expect.start : Expect := ⟨true, true, true⟩

namespace Token

/-- How a token is called in a complaint. -/
def describe : Token → String
  | word _ => "word"
  | keyword name => "\"" ++ name ++ "\""
  | operator text => "\"" ++ text ++ "\""
  | arrow .. | hereArrow .. => "redirection"
  | newline => "newline"
  | finish => "end of file"

/-- Whether a token is this keyword. -/
def isKeyword (name : String) : Token → Bool
  | keyword n => n = name
  | _ => false

/-- Whether a token is this operator. -/
def isOperator (text : String) : Token → Bool
  | operator t => t = text
  | _ => false

/-- Whether a token ends a list of commands. -/
def closes : Token → Bool
  | keyword name =>
      ["do", "done", "elif", "else", "esac", "fi", "then", "\x7d"].contains name
  | operator text => text = ")" || text = ";;"
  | finish => true
  | _ => false

end Token

/-- A token stands where it cannot; `expected` is what could stand there, if that is one. -/
def unexpected {α : Type} (t : Token) (expected : Option String := none) : Reader α :=
  let more :=
    match expected with
    | none => ""
    | some e => " (expecting " ++ e ++ ")"
  fault (t.describe ++ " unexpected" ++ more)

/-- Give a token back. -/
def putBack (t : Token) : Reader PUnit := modify fun s => { s with ahead := some t }

/-! ## Texts below -/

/-- Whether a line ends with a backslash that joins it with the next one. -/
def isJoined (line : List Char) : Bool :=
  (line.reverse.takeWhile (· = '\\')).length % 2 = 1

/-- Take the lines up to the one that ends a text: the text, newest character first, and what is
left. `joined` tells whether this line belongs to the one before. The first argument bounds the
number of lines. -/
def takeLines (p : Pending) : Nat → Bool → List Char → List Char → List Char × List Char
  | 0, _, seen, cs => (seen, cs)
  | _ + 1, _, seen, [] => (seen, [])
  | fuel + 1, joined, seen, c :: cs =>
      let line := (c :: cs).takeWhile (· ≠ '\n')
      let behind := (c :: cs).drop line.length
      let line := if p.tabs ∧ ¬ joined then line.dropWhile (· = '\t') else line
      if ¬ joined ∧ line = p.ending then (seen, behind.drop 1)
      else
        takeLines p fuel (!p.literal && isJoined line)
          (behind.take 1 ++ (line.reverse ++ seen)) (behind.drop 1)

/-- Read a text that was asked for. -/
def readDocument (sub : Substitution) (p : Pending) : Reader PUnit := do
  let s ← get
  let (seen, rest) := takeLines p (s.rest.length + 1) false [] s.rest
  let text := seen.reverse
  let read := s.rest.take (s.rest.length - rest.length)
  let line := s.line + read.countP (· = '\n')
  let w ← if p.literal then pure [.text true text]
    else do
      set { s with rest := text, pending := [], replacing := [] }
      pure (wordOf (← readParts sub .here (2 * text.length + 2) 0 []))
  modify fun inner =>
    { s with rest, line, documents := inner.documents.setIfInBounds p.index w }

/-- Read the texts that were asked for. -/
def readDocuments (sub : Substitution) : Reader PUnit := do
  let pending := (← get).pending
  modify fun s => { s with pending := [] }
  pending.forM (readDocument sub)

/-! ## Cutting into tokens -/

/-- Pass over blanks and a comment. -/
def skipBlanks : Nat → Reader PUnit
  | 0 => pure ()
  | fuel + 1 => do
      match ← peek with
      | some c =>
          if c = ' ' ∨ c = '\t' then
            let _ ← takeRaw
            skipBlanks fuel
          else if c = '#' then
            modify fun s => { s with rest := s.rest.dropWhile (· ≠ '\n') }
          else pure ()
      | none => pure ()

/-- Read an arrow. -/
def readArrow (descriptor : Option Nat) : Reader Token := do
  if (← takeChar) = some '>' then
    let d := descriptor.getD 1
    if ← takeIf '>' then return .arrow d .append
    else if ← takeIf '&' then return .arrow d .duplicate
    else return .arrow d (.output (← takeIf '|'))
  else
    let d := descriptor.getD 0
    if ← takeIf '<' then return .hereArrow d (← takeIf '-')
    else if ← takeIf '&' then return .arrow d .duplicate
    else if ← takeIf '>' then return .arrow d .both
    else return .arrow d .input

/-- The descriptor that a word before an arrow stands for: a digit, or nothing for the usual
one. -/
def descriptor? : Word → Option (Option Nat)
  | [] => some none
  | [.text false [c]] => if c.isDigit then some (some (c.toNat - 0x30)) else none
  | _ => none

/-- Read an operator that may be doubled. -/
def readDoubled (c : Char) (doubled : Bool) : Reader Token := do
  if doubled then
    if ← takeIf c then return .operator (String.ofList [c, c])
  return .operator (String.ofList [c])

/-- Read a token. -/
def readToken (sub : Substitution) : Reader Token := do
  skipBlanks (2 * (← remaining))
  match ← peek with
  | none => return .finish
  | some c =>
      if c = '\n' then
        let _ ← takeRaw
        readDocuments sub
        return .newline
      else if c = '(' ∨ c = ')' ∨ c = '&' ∨ c = '|' ∨ c = ';' then
        let _ ← takeRaw
        readDoubled c (c ≠ '(' ∧ c ≠ ')')
      else
        let w ← readWord sub
        let next ← peek
        match descriptor? w with
        | some d =>
            if next = some '<' ∨ next = some '>' then readArrow d else return .word w
        | none => return .word w

/-- The text that a name stands for, unless it is being read already. -/
def aliasText? (s : Source) (w : Word) : Option (List Char × List Char) := do
  let name ← w.bareText?
  let text ← s.aliases.lookup name
  let inUse := s.replacing.any fun (n, behind) => n = name && behind ≤ s.rest.length
  if inUse then none else some (name, text)

/-- Take the next token. The first argument bounds the number of steps. -/
def takeToken (sub : Substitution) (e : Expect) : Nat → Reader Token
  | 0 => return .finish
  | fuel + 1 => do
      let s ← get
      let t ←
        match s.ahead with
        | some t => do
            set { s with ahead := none }
            pure t
        | none => readToken sub
      match t with
      | .newline => if e.newlines then takeToken sub e fuel else return t
      | .word w =>
          match if e.keywords then keyword? w else none with
          | some name => return .keyword name
          | none =>
              let s ← get
              match if e.aliases then aliasText? s w else none with
              | none => return t
              | some (name, text) =>
                  set { s with
                    rest := text ++ s.rest
                    replacing := (name, s.rest.length) :: s.replacing }
                  takeToken sub e fuel
      | t => return t

/-! ## Commands -/

/-- The name and the value of a word that sets a variable. -/
def assignment? : Word → Option (List Char × Word)
  | .text false s :: parts =>
      let name := s.takeWhile isNameChar
      match s.drop name.length with
      | '=' :: value =>
          if isName name then
            some (name, if value = [] then parts else .text false value :: parts)
          else none
      | _ => none
  | _ => none

/-- A command of words that is read so far, all parts newest first. -/
structure Draft where
  assignments : List (List Char × Word) := []
  words : List Word := []
  redirections : List (Redirection Word) := []

/-- The command that a draft stands for. -/
def Draft.finish (d : Draft) (line : Nat) : Command :=
  .simple line d.assignments.reverse d.words.reverse d.redirections.reverse

/-- The word that a token in the place of a pattern is. -/
def Token.pattern? : Token → Option Word
  | .word w => some w
  | .keyword name => some [.text false name.toList]
  | _ => none

/-- One command behind another, if there is another. -/
def sequenceOf (a : Option Command) (b : Command) : Command :=
  match a with
  | none => b
  | some a => .sequence a b

/-- Where a list of commands stands. -/
inductive Place where
  /-- On a line by itself. -/
  | line
  /-- In a command, which needs at least one. -/
  | inner
  /-- In a command, which may have none. -/
  | optional
deriving DecidableEq

mutual

/-- Take the next token. -/
def next : Nat → Expect → Reader Token
  | 0, _ => return .finish
  | fuel + 1, e => do
      takeToken ⟨readBracketed fuel, readWhole fuel⟩ e (2 * (← remaining) + 64)

/-- Read commands and the bracket behind them. -/
def readBracketed : Nat → Reader (Option Command)
  | 0 => fault "Script too deep"
  | fuel + 1 => do
      let pending := (← get).pending
      modify fun s => { s with pending := [] }
      let c ← readList fuel .optional none
      let t ← next fuel {}
      if ¬ t.isOperator ")" then unexpected t (some "\")\"")
      readDocuments ⟨readBracketed fuel, readWhole fuel⟩
      modify fun s => { s with pending }
      return c

/-- Read the commands that the rest of a text starts with. -/
def readWhole : Nat → Reader (Option Command)
  | 0 => fault "Script too deep"
  | fuel + 1 => do
      let c ← readList fuel .optional none
      readDocuments ⟨readBracketed fuel, readWhole fuel⟩
      return c

/-- Read commands one after the other, behind those so far, up to a token that ends them. -/
def readList : Nat → Place → Option Command → Reader (Option Command)
  | 0, _, _ => fault "Script too deep"
  | fuel + 1, place, c => do
      match ← next fuel { Expect.start with newlines := place ≠ .line } with
      | .newline => return c
      | .finish =>
          putBack .finish
          return c
      | t =>
          putBack t
          if place = .optional ∧ t.closes then return c
          let a ← readAndOr fuel
          let t ← next fuel {}
          let c := sequenceOf c (if t.isOperator "&" then .background a else a)
          let place := if place = .line then place else .optional
          match t with
          | .finish =>
              putBack t
              return c
          | .newline =>
              putBack t
              readList fuel place c
          | t =>
              if t.isOperator "&" ∨ t.isOperator ";" then readList fuel place c
              else if place = .line then unexpected t
              else
                putBack t
                return c

/-- Read a list of commands that cannot be empty. -/
def readBody : Nat → Reader Command
  | 0 => fault "Script too deep"
  | fuel + 1 => do
      match ← readList fuel .inner none with
      | some c => return c
      | none => unexpected .finish

/-- Read commands of which each hangs on the success or the failure of the one before. -/
def readAndOr : Nat → Reader Command
  | 0 => fault "Script too deep"
  | fuel + 1 => do readAndOrBehind fuel (← readPipeline fuel {})

/-- Read what hangs on the success or the failure of a command. -/
def readAndOrBehind : Nat → Command → Reader Command
  | 0, _ => fault "Script too deep"
  | fuel + 1, a => do
      let t ← next fuel {}
      if t.isOperator "&&" then
        readAndOrBehind fuel (.ifSucceeds a (← readPipeline fuel Expect.start))
      else if t.isOperator "||" then
        readAndOrBehind fuel (.ifFails a (← readPipeline fuel Expect.start))
      else
        putBack t
        return a

/-- Read commands of which each reads what the one before prints. -/
def readPipeline : Nat → Expect → Reader Command
  | 0, _ => fault "Script too deep"
  | fuel + 1, e => do
      let t ← next fuel e
      if t.isKeyword "!" then return .negated (← readStages fuel ⟨false, true, true⟩)
      else
        putBack t
        readStages fuel {}

/-- Read the stages of a pipeline. -/
def readStages : Nat → Expect → Reader Command
  | 0, _ => fault "Script too deep"
  | fuel + 1, e => do
      let first ← readCommand fuel e
      match ← readMoreStages fuel [first] with
      | [c] => return c
      | cs => return .pipeline cs.reverse

/-- Read the stages behind others, newest first. -/
def readMoreStages : Nat → List Command → Reader (List Command)
  | 0, _ => fault "Script too deep"
  | fuel + 1, seen => do
      let t ← next fuel {}
      if t.isOperator "|" then readMoreStages fuel ((← readCommand fuel Expect.start) :: seen)
      else
        putBack t
        return seen

/-- Read one command. -/
def readCommand : Nat → Expect → Reader Command
  | 0, _ => fault "Script too deep"
  | fuel + 1, e => do
      let line := (← get).line
      let t ← next fuel e
      match t with
      | .keyword "if" =>
          let c ← readChoice fuel
          readRedirected fuel line c
      | .keyword "while" => readLoop fuel line true
      | .keyword "until" => readLoop fuel line false
      | .keyword "for" => readEach fuel line
      | .keyword "case" =>
          match ← next fuel {} with
          | .word w =>
              let t ← next fuel Expect.start
              if ¬ t.isKeyword "in" then unexpected t (some "\"in\"")
              let arms ← readArms fuel []
              readRedirected fuel line (.select line w arms)
          | t => unexpected t (some "word")
      | .keyword "\x7b" =>
          let c ← readBody fuel
          expectKeyword fuel "\x7d"
          readRedirected fuel line c
      | .operator "(" =>
          let c ← readBody fuel
          let t ← next fuel {}
          if ¬ t.isOperator ")" then unexpected t (some "\")\"")
          return .subshell line c (← readRedirections fuel ⟨false, true, true⟩ [])
      | .word _ | .arrow .. | .hereArrow .. =>
          putBack t
          readSimple fuel (← get).line {}
      | t => unexpected t

/-- Take a keyword. -/
def expectKeyword : Nat → String → Reader PUnit
  | 0, _ => fault "Script too deep"
  | fuel + 1, name => do
      let t ← next fuel {}
      if ¬ t.isKeyword name then unexpected t (some ("\"" ++ name ++ "\""))

/-- Read a choice behind the word that opens it or one of its further branches. -/
def readChoice : Nat → Reader Command
  | 0 => fault "Script too deep"
  | fuel + 1 => do
      let condition ← readBody fuel
      expectKeyword fuel "then"
      let yes ← readBody fuel
      let t ← next fuel {}
      if t.isKeyword "elif" then return .choice condition yes (some (← readChoice fuel))
      else if t.isKeyword "else" then
        let no ← readBody fuel
        expectKeyword fuel "fi"
        return .choice condition yes (some no)
      else if t.isKeyword "fi" then return .choice condition yes none
      else unexpected t (some "\"fi\"")

/-- Read a loop behind the word that opens it. -/
def readLoop : Nat → Nat → Bool → Reader Command
  | 0, _, _ => fault "Script too deep"
  | fuel + 1, line, succeeds => do
      let condition ← readBody fuel
      expectKeyword fuel "do"
      let body ← readBody fuel
      expectKeyword fuel "done"
      readRedirected fuel line (.loop succeeds condition body)

/-- Read a loop over words behind the word that opens it. -/
def readEach : Nat → Nat → Reader Command
  | 0, _ => fault "Script too deep"
  | fuel + 1, line => do
      let name ←
        match ← next fuel {} with
        | .word w =>
            match w.bareText?.filter isName with
            | some name => pure name
            | none => fault "Bad for loop variable"
        | _ => fault "Bad for loop variable"
      let t ← next fuel Expect.start
      let words ←
        if t.isKeyword "in" then readItems fuel []
        else do
          if ¬ t.isOperator ";" then putBack t
          pure [[.parameter true ['@'] .value]]
      let t ← next fuel Expect.start
      if ¬ t.isKeyword "do" then unexpected t (some "\"do\"")
      let body ← readBody fuel
      expectKeyword fuel "done"
      readRedirected fuel line (.each line name words body)

/-- Read the words of a loop, behind those so far, newest first, and the end of the line. -/
def readItems : Nat → List Word → Reader (List Word)
  | 0, _ => fault "Script too deep"
  | fuel + 1, seen => do
      match ← next fuel {} with
      | .word w => readItems fuel (w :: seen)
      | .newline => return seen.reverse
      | t => if t.isOperator ";" then return seen.reverse else unexpected t

/-- Read the arms of a selection, behind those so far, newest first, up to the word that closes
it. -/
def readArms : Nat → List (List Word × Option Command) →
    Reader (List (List Word × Option Command))
  | 0, _ => fault "Script too deep"
  | fuel + 1, seen => do
      let t ← next fuel ⟨true, true, false⟩
      if t.isKeyword "esac" then return seen.reverse
      let t ← if t.isOperator "(" then next fuel {} else pure t
      let patterns ← readPatterns fuel [] t
      let body ← readList fuel .optional none
      let seen := (patterns, body) :: seen
      let t ← next fuel ⟨true, true, false⟩
      if t.isKeyword "esac" then return seen.reverse
      else if t.isOperator ";;" then readArms fuel seen
      else unexpected t (some "\";;\"")

/-- Read the patterns of an arm, of which this is the first token, behind those so far, newest
first, up to the bracket behind them. -/
def readPatterns : Nat → List Word → Token → Reader (List Word)
  | 0, _, _ => fault "Script too deep"
  | fuel + 1, seen, t => do
      match t.pattern? with
      | none => unexpected t
      | some w =>
          let t ← next fuel {}
          if t.isOperator "|" then readPatterns fuel (w :: seen) (← next fuel {})
          else if t.isOperator ")" then return (w :: seen).reverse
          else unexpected t (some "\")\"")

/-- Read the redirections behind a command. -/
def readRedirected : Nat → Nat → Command → Reader Command
  | 0, _, _ => fault "Script too deep"
  | fuel + 1, line, c => do
      match ← readRedirections fuel ⟨false, true, true⟩ [] with
      | [] => return c
      | rs => return .redirected line c rs

/-- Read redirections behind others, newest first. -/
def readRedirections : Nat → Expect → List (Redirection Word) → Reader (List (Redirection Word))
  | 0, _, _ => fault "Script too deep"
  | fuel + 1, e, seen => do
      let t ← next fuel e
      match t with
      | .arrow .. | .hereArrow .. => readRedirections fuel {} ((← readTarget fuel t) :: seen)
      | t =>
          putBack t
          return seen.reverse

/-- Read the target of an arrow. -/
def readTarget : Nat → Token → Reader (Redirection Word)
  | 0, _ => fault "Script too deep"
  | fuel + 1, arrow => do
      match ← next fuel {} with
      | .word w =>
          match arrow with
          | .hereArrow descriptor tabs =>
              let s ← get
              let index := s.documents.size
              let p : Pending := ⟨index, w.plainText, w.any Part.isQuoted, tabs⟩
              set { s with documents := s.documents.push [], pending := s.pending ++ [p] }
              return ⟨descriptor, .here index, []⟩
          | .arrow descriptor direction => return ⟨descriptor, direction, w⟩
          | _ => unexpected arrow
      | t => unexpected t

/-- Read a command of words behind what was read of it. -/
def readSimple : Nat → Nat → Draft → Reader Command
  | 0, _, _ => fault "Script too deep"
  | fuel + 1, line, d => do
      let t ← next fuel { aliases := d.words.isEmpty }
      match t with
      | .word w =>
          match if d.words.isEmpty then assignment? w else none with
          | some a => readSimple fuel line { d with assignments := a :: d.assignments }
          | none => readSimple fuel line { d with words := w :: d.words }
      | .arrow .. | .hereArrow .. =>
          let r ← readTarget fuel t
          readSimple fuel line { d with redirections := r :: d.redirections }
      | t =>
          match d with
          | ⟨[], [w], []⟩ =>
              if t.isOperator "(" then
                let t ← next fuel {}
                if ¬ t.isOperator ")" then unexpected t (some "\")\"")
                match w.bareText?.filter isName with
                | some name =>
                    if specialNames.any (·.toList = name) then fault "Bad function name"
                    return .define name (← readCommand fuel Expect.start)
                | none => fault "Bad function name"
              else
                putBack t
                return d.finish line
          | d =>
              putBack t
              return d.finish line

end

/-- Read the rest of a text as what stands in quotes. -/
def readPrompt : Reader Word := do
  let fuel := 16 * (← remaining) + 64
  return wordOf (← readParts ⟨readBracketed fuel, readWhole fuel⟩ .here fuel 0 [])

/-- Read the next complete command: `none` at the end of the script, and nothing for an empty
line. -/
def readLine : Reader (Option (Option Command)) := do
  let fuel := 16 * (← remaining) + 64
  let c ← readList fuel .line none
  match c, (← get).ahead with
  | none, some .finish => return none
  | c, _ => return some c

end DiagServer.Posix.Shell
