import DiagServer.Posix.Shell.Source

/-!
# Reading words

Quotes and backslashes keep characters from having a meaning of their own; a dollar sign or a
pair of backquotes starts an expansion. What stands in the braces of an expansion is a word of
its own. How the commands in a word are read is left to the caller.
-/

namespace DiagServer.Posix.Shell

/-- How the commands in a word are read. -/
structure Substitution where
  /-- Read commands and the bracket behind them. -/
  bracketed : Reader (Option Command)
  /-- Read the commands that the rest of a text starts with. -/
  whole : Reader (Option Command)

/-- Where a part of a word stands. -/
inductive Context where
  /-- Outside of quotes. -/
  | bare
  /-- In double quotes, which may stand in braces. -/
  | quotes (inBraces : Bool)
  /-- In braces outside of quotes. -/
  | braces
  /-- In braces in quotes; single quotes have no meaning there. -/
  | quotedBraces
  /-- In a text from below a command. -/
  | here
  /-- In braces in such a text. -/
  | hereBraces
  /-- In an expression. -/
  | arithmetic
deriving Repr, DecidableEq

namespace Context

/-- Whether what stands there is quoted. -/
def isQuoted : Context → Bool
  | bare | braces => false
  | _ => true

/-- Where the word behind a rule stands, if the rule stands here. -/
def ofRule : Context → Context
  | bare | braces => braces
  | here | hereBraces => hereBraces
  | _ => quotedBraces

/-- Whether a backslash stands for itself before a character. -/
def keepsBackslash (x : Context) (c : Char) : Bool :=
  x.isQuoted && !(c = '\\' || c = '$' || c = backquote)
    && !(c = '"' && x ≠ here)
    && !(c = '\x7d' && (x = quotedBraces || x = hereBraces || x = quotes true))

/-- What is wrong if the script ends here; `none` if that is fine. -/
def missing? : Context → Option String
  | bare | here => none
  | quotes _ | quotedBraces => some "Unterminated quoted string"
  | braces | hereBraces => some "Missing '\x7d'"
  | arithmetic => some "Missing '))'"

end Context

/-- Whether a character ends a word. -/
def endsWord (c : Char) : Bool := " \t\n;&|<>()".toList.contains c

/-- Put a part in front of others; texts that are quoted alike become one. -/
def joinPart (part : Part) (rest : List Part) : List Part :=
  match part, rest with
  | .text quoted s, .text quoted' t :: others =>
      if quoted = quoted' then .text quoted (s ++ t) :: others else part :: rest
  | _, _ => part :: rest

/-- A word with neighbouring texts put together, from its parts, newest first. -/
def wordOf (parts : List Part) : Word := parts.reverse.foldr joinPart []

/-- What is quoted by double quotes, behind other parts, newest first. The arguments of the script
stand without marks, so that they may be no field at all. -/
def addQuoted (inner parts : List Part) : List Part :=
  match inner with
  | [.parameter _ ['@'] .value] => inner ++ parts
  | _ => .mark :: (inner ++ .mark :: parts)

/-- Read up to a single quote. The first argument bounds the number of steps. -/
def readSingleQuoted : Nat → List Char → Reader (List Char)
  | 0, _ => fault "Unterminated quoted string"
  | fuel + 1, seen => do
      match ← takeRaw with
      | none => fault "Unterminated quoted string"
      | some c => if c = '\'' then return seen.reverse else readSingleQuoted fuel (c :: seen)

/-- Read up to a backquote. A backslash there keeps a backquote, a dollar sign or another
backslash, and in quotes a double quote. The first argument bounds the number of steps. -/
def readBackquotedText (quoted : Bool) : Nat → List Char → Reader (List Char)
  | 0, _ => fault "EOF in backquote substitution"
  | fuel + 1, seen => do
      match ← takeChar with
      | none => fault "EOF in backquote substitution"
      | some c =>
          if c = backquote then return seen.reverse
          else if c = '\\' then
            match ← takeRaw with
            | none => fault "EOF in backquote substitution"
            | some d =>
                let drops := d = '\\' || d = backquote || d = '$' || (quoted && d = '"')
                readBackquotedText quoted fuel (if drops then d :: seen else d :: '\\' :: seen)
          else readBackquotedText quoted fuel (c :: seen)

/-- Read the commands between backquotes. -/
def readBackquoted (sub : Substitution) (quoted : Bool) : Reader (Option Command) := do
  let text ← readBackquotedText quoted (← remaining) []
  let outer ← get
  set { outer with rest := text, line := 1, ahead := none, pending := [], replacing := [] }
  let c ← sub.whole
  modify fun inner => { outer with documents := inner.documents }
  return c

/-- What stands behind the name of a parameter before the word of its rule. -/
inductive RuleHead where
  | done (r : Rule)
  | unknown
  | word (make : List Part → Rule)
  | pattern (front longest : Bool)

/-- Read what tells the rule behind a parameter in braces. -/
def readRuleHead : Reader RuleHead := do
  let first ← takeChar
  let emptyToo := first = some ':'
  let c ← if emptyToo then takeChar else pure first
  if c = some '-' then return .word (.orElse emptyToo)
  else if c = some '+' then return .word (.ifThere emptyToo)
  else if c = some '?' then return .word (.orFail emptyToo)
  else if c = some '=' then return .word (.orAssign emptyToo)
  else if emptyToo then return .unknown
  else if c = some '\x7d' then return .done .value
  else if c = some '%' then return .pattern false (← takeIf '%')
  else if c = some '#' then return .pattern true (← takeIf '#')
  else return .unknown

/-- Read the name of a parameter in braces, and whether its length is asked for and a rule may
follow. -/
def readBracedName : Reader (List Char × Bool × Bool) := do
  let digits : Reader (List Char) := do takeWhileIs Char.isDigit (← remaining) []
  match ← peek with
  | none => return ([], false, false)
  | some c =>
      if isNameStart c then return (← takeName, false, true)
      else if c.isDigit then return (← digits, false, true)
      else if c = '#' then
        let _ ← takeChar
        match ← peek with
        | none => return (['#'], false, true)
        | some d =>
            if isNameStart d then return (← takeName, true, false)
            else if d.isDigit then return (← digits, true, false)
            else
              let before ← get
              let _ ← takeChar
              if d ≠ '\x7d' ∧ (← peek) = some '\x7d' then
                return (if isSpecial d then ([d], true, false) else ([], false, false))
              else
                set before
                return (['#'], false, true)
      else if isSpecial c then
        let _ ← takeChar
        return ([c], false, true)
      else return ([], false, false)

mutual

/-- Read parts of a word behind those so far, newest first, up to where they end. `depth` counts
brackets in an expression, and tells in braces in quotes whether a quote is open. The first number
bounds the steps. -/
def readParts (sub : Substitution) (x : Context) : Nat → Nat → List Part → Reader (List Part)
  | 0, _, _ => fault "Word too long"
  | fuel + 1, depth, parts => do
      match ← peek with
      | none =>
          match x.missing? with
          | some what => fault what
          | none => return parts
      | some c =>
          if x = .bare ∧ endsWord c then return parts
          else
            let _ ← takeRaw
            let text (cs : List Char) : Part := .text x.isQuoted cs
            let go (depth : Nat) (parts : List Part) : Reader (List Part) :=
              readParts sub x fuel depth parts
            if c = '\\' then
              match ← takeRaw with
              | none => go depth (.text true ['\\'] :: parts)
              | some d =>
                  go depth (.text true (if x.keepsBackslash d then ['\\', d] else [d]) :: parts)
            else if c = '$' then go depth ((← readDollar sub x fuel) :: parts)
            else if c = backquote then
              go depth (.output x.isQuoted (← readBackquoted sub x.isQuoted) :: parts)
            else
              match x with
              | .bare | .braces =>
                  if c = '\'' then
                    let s ← readSingleQuoted (← remaining) []
                    go depth (.mark :: .text true s :: .mark :: parts)
                  else if c = '"' then
                    let inner ← readParts sub (.quotes (x = .braces)) fuel 0 []
                    go depth (addQuoted inner parts)
                  else if c = '\x7d' ∧ x = .braces then return parts
                  else go depth (text [c] :: parts)
              | .quotes _ => if c = '"' then return parts else go depth (text [c] :: parts)
              | .quotedBraces =>
                  if c = '"' then go (1 - depth) (.mark :: parts)
                  else if c = '\x7d' ∧ depth = 0 then return parts
                  else go depth (text [c] :: parts)
              | .here => go depth (text [c] :: parts)
              | .hereBraces =>
                  if c = '"' then go (1 - depth) parts
                  else if c = '\x7d' ∧ depth = 0 then return parts
                  else go depth (text [c] :: parts)
              | .arithmetic =>
                  if c = '"' then go depth parts
                  else if c = '(' then go (depth + 1) (text [c] :: parts)
                  else if c = ')' then
                    if 0 < depth then go (depth - 1) (text [c] :: parts)
                    else if ← takeIf ')' then return parts
                    else go depth (text [c] :: parts)
                  else go depth (text [c] :: parts)

/-- Read the expansion behind a dollar sign; without one the sign stands for itself. -/
def readDollar (sub : Substitution) (x : Context) : Nat → Reader Part
  | 0 => fault "Word too long"
  | fuel + 1 => do
      let q := x.isQuoted
      match ← peek with
      | none => return .text q ['$']
      | some c =>
          if c = '(' then
            let _ ← takeRaw
            if ← takeIf '(' then
              return .arithmetic q (wordOf (← readParts sub .arithmetic fuel 0 []))
            else return .output q (← sub.bracketed)
          else if c = '\x7b' then
            let _ ← takeRaw
            let (name, length, ruled) ← readBracedName
            let word (inner : Context) : Reader (List Part) := do
              return wordOf (← readParts sub inner fuel 0 [])
            if ruled then
              match ← readRuleHead with
              | .done r => return .parameter q name r
              | .word make => return .parameter q name (make (← word x.ofRule))
              | .pattern front longest =>
                  return .parameter q name (.trim front longest (← word .braces))
              | .unknown =>
                  let _ ← word x.ofRule
                  return .parameter q name .unknown
            else if length ∧ (← takeIf '\x7d') then return .parameter q name .length
            else
              let _ ← word x.ofRule
              return .parameter q name .unknown
          else if isNameStart c then return .parameter q (← takeName) .value
          else if isSpecial c then
            let _ ← takeRaw
            return .parameter q [c] .value
          else return .text q ['$']

end

/-- Read a word. -/
def readWord (sub : Substitution) : Reader Word := do
  return wordOf (← readParts sub .bare (2 * (← remaining)) 0 [])

/-- The text of a word without its quotes. -/
def Word.plainText (w : Word) : List Char :=
  w.flatMap fun
    | .text _ s => s
    | _ => []

/-- The text of a word that is nothing but unquoted text. -/
def Word.bareText? : Word → Option (List Char)
  | [.text false s] => some s
  | _ => none

/-- Whether a part is quoted. -/
def Part.isQuoted : Part → Bool
  | .text quoted _ => quoted
  | .mark => true
  | .parameter quoted _ _ => quoted
  | .output quoted _ => quoted
  | .arithmetic quoted _ => quoted

end DiagServer.Posix.Shell
