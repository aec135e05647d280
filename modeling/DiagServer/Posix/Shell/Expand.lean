import DiagServer.Posix.Shell.Arithmetic

/-!
# Expanding words

A word becomes cells, and these become fields, one text or a pattern. How the output of commands
is had is left to the caller, who runs them.
-/

namespace DiagServer.Posix.Shell

/-- Where tildes in a word are expanded. -/
inductive Tilde where
  | never
  | atStart
  /-- Where the word and each part behind a colon start. -/
  | inPaths
deriving DecidableEq

/-- What a word is expanded for. -/
structure Purpose where
  /-- Whether the word may become several fields. -/
  fields : Bool := false
  /-- Whether what is written without quotes is split too. -/
  splits : Bool := false
  tilde : Tilde := .never

/-- The home directory of a user. -/
def homeOf? (s : State) (user : List Char) : Option (List Char) :=
  if user = [] then s.value? "HOME".toList
  else if user = "root".toList then some "/root".toList
  else none

/-- The cells of a tilde and a name at the front of a text, and what is left; `ends` tells whether
the word ends with the text. -/
def expandTilde? (s : State) (inPaths ends : Bool) (text : List Char) :
    Option (List Cell × List Char) :=
  match text with
  | '~' :: cs =>
      let user := cs.takeWhile fun c => c ≠ '/' && !(inPaths && c = ':')
      let rest := cs.drop user.length
      if rest = [] ∧ ¬ ends then none
      else (homeOf? s user).map fun home => (stretchOf true home, rest)
  | _ => none

/-- The cells of a text in the script. -/
def textCells (quoted splits : Bool) (text : List Char) : List Cell :=
  if quoted ∨ ¬ splits ∨ text = [] then text.map (.char quoted false)
  else .edge false :: text.map (.char false true)

/-- The cells of a text without quotes in which tildes are expanded. The first argument bounds the
number of tildes. -/
def tildeCells (s : State) (p : Purpose) (ends : Bool) : Nat → Bool → List Char → List Cell
  | 0, _, text => textCells false p.splits text
  | fuel + 1, here, text =>
      let inPaths := p.tilde = .inPaths
      match if here then expandTilde? s inPaths ends text else none with
      | some (cells, rest) => cells ++ tildeCells s p ends fuel false rest
      | none =>
          let part := text.takeWhile fun c => !(inPaths && c = ':')
          match text.drop part.length with
          | [] => textCells false p.splits part
          | colon :: rest =>
              textCells false p.splits (part ++ [colon]) ++ tildeCells s p ends fuel true rest

/-- A text without the ends of lines at its end, and without zero characters. -/
def trimOutput (cs : List Char) : List Char :=
  ((cs.filter (· ≠ '\x00')).reverse.dropWhile (· = '\n')).reverse

/-- The arguments as one text. -/
def joinedArgs (s : State) : List Char :=
  let between :=
    match s.value? "IFS".toList with
    | some chars => chars.take 1
    | none => [' ']
  between.intercalate s.args

/-- The cells of the arguments, each with its own; `quoted` keeps them whole. -/
def argCells (quoted : Bool) : List (List Char) → List Cell
  | [] => []
  | [arg] => arg.map (.char quoted (!quoted))
  | arg :: args => arg.map (.char quoted (!quoted)) ++ .gap :: argCells quoted args

/-- The value of a parameter, `none` if it is not set. -/
def valueOf? (s : State) (name : List Char) : Option (List Char) :=
  if name = ['@'] ∨ name = ['*'] then some (joinedArgs s) else s.parameter? name

/-- The arguments with zero characters between them. -/
def argTexts (s : State) : List Char := ['\x00'].intercalate s.args

/-- Whether a parameter stands for the arguments, each of which becomes a field of its own. -/
def isEach (p : Purpose) (quoted : Bool) (name : List Char) : Bool :=
  p.fields && (name = ['@'] || (name = ['*'] && !quoted))

/-- The cells of a parameter's value. -/
def valueCells (s : State) (p : Purpose) (quoted : Bool) (name value : List Char) : List Cell :=
  if isEach p quoted name then
    if quoted ∧ s.args = [] then [] else .edge quoted :: argCells quoted s.args
  else stretchOf quoted value

/-- How the output of commands is had. -/
abbrev Capture := Option Command → Run (List Char)

mutual

/-- The cells of the parts of a word. `first` tells whether the word starts here. The first number
bounds the depth. -/
def expandParts (capture : Capture) : Nat → Purpose → Bool → List Part → Run (List Cell)
  | 0, _, _, _ => return []
  | _ + 1, _, _, [] => return []
  | fuel + 1, p, first, part :: parts => do
      let cells ←
        match part with
        | .text false text =>
            if p.tilde = .never then pure (textCells false p.splits text)
            else
              let s ← get
              pure (tildeCells s p parts.isEmpty (text.length + 1) first text)
        | part => expandPart capture fuel p part
      let rest ← expandParts capture fuel p false parts
      return cells ++ rest

/-- The cells of a part of a word. -/
def expandPart (capture : Capture) : Nat → Purpose → Part → Run (List Cell)
  | 0, _, _ => return []
  | fuel + 1, p, part => do
      match part with
      | .text quoted text => return textCells quoted p.splits text
      | .mark => return [.mark]
      | .output quoted c =>
          let text ← capture c
          return stretchOf quoted (trimOutput text)
      | .arithmetic quoted expression =>
          let cells ← expandParts capture fuel {} false expression
          let i ← arithmetic (plainText cells)
          return stretchOf quoted (integerText i)
      | .parameter quoted name rule => expandParameter capture fuel p quoted name rule

/-- The cells that a rule gives for a parameter. -/
def expandParameter (capture : Capture) : Nat → Purpose → Bool → List Char → Rule →
    Run (List Cell)
  | 0, _, _, _, _ => return []
  | fuel + 1, p, quoted, name, rule => do
      let s ← get
      let isAll := name = ['@'] ∨ name = ['*']
      let missing (emptyToo : Bool) : Bool :=
        match valueOf? s name with
        | none => true
        | some value => emptyToo && value.isEmpty
      let value : Run (List Cell) := do
        match valueOf? s name with
        | some text => return valueCells s p quoted name text
        | none => return (if quoted then [] else [.edge false])
      let checked : Run (List Char) := do
        match valueOf? s name with
        | some text => return text
        | none => if s.has 'u' ∧ ¬ isAll then failOn name "parameter not set" else return []
      let word (w : Word) : Run (List Cell) :=
        expandParts capture fuel { p with splits := !quoted, tilde := .atStart } true w
      let text (w : Word) : Run (List Char) := do
        return plainText (← expandParts capture fuel { tilde := .atStart } true w)
      match rule with
      | .unknown => fail "Bad substitution".toList
      | .value =>
          let _ ← checked
          value
      | .length =>
          let text ← checked
          return stretchOf quoted (Nat.toDigits 10 text.length)
      | .orElse emptyToo w => if missing emptyToo then word w else value
      | .ifThere emptyToo w => if missing emptyToo then return [] else word w
      | .orAssign emptyToo w =>
          if missing emptyToo then
            let text ← text w
            if ¬ isName name then failOn name "bad variable name"
            assign name text
            return stretchOf quoted text
          else value
      | .orFail emptyToo w =>
          if ¬ missing emptyToo then value
          else if w.isEmpty then
            failOn name (if emptyToo then "parameter not set or null" else "parameter not set")
          else fail (name ++ ": ".toList ++ (← text w))
      | .trim front longest w =>
          let found ← checked
          if (valueOf? s name).isNone then return ← value
          let pattern := patternOf (← expandParts capture fuel { tilde := .atStart } true w)
          let trimmed (text : List Char) : List Char :=
            if front then dropFront longest pattern text else dropBehind longest pattern text
          if isEach p quoted name then
            let texts := (trimmed (argTexts s)).splitOn '\x00'
            return .edge quoted :: argCells quoted texts
          else return stretchOf quoted (trimmed found)

end

/-- A bound for the depth of the parts of a word that can be read. -/
def maxDepth : Nat := 100000

/-- Expand a word to cells. -/
def expand (capture : Capture) (p : Purpose) (w : Word) : Run (List Cell) :=
  expandParts capture maxDepth p true w

/-- Expand a word to one text. -/
def expandText (capture : Capture) (tilde : Tilde) (w : Word) : Run (List Char) := do
  return plainText (← expand capture { tilde } w)

/-- Expand a word to a pattern. -/
def expandToPattern (capture : Capture) (w : Word) : Run (List Char) := do
  return patternOf (← expand capture { tilde := .atStart } w)

/-- Expand a word to fields. A field that is a pattern stands for the paths that it fits. -/
def expandFields (capture : Capture) (w : Word) : Run (List (List Char)) := do
  let cells ← expand capture { fields := true, tilde := .atStart } w
  let s ← get
  return (fieldsOf s.separators cells).flatMap fun field =>
    match if s.has 'f' then [] else pathsOf s.world.files (patternOf field) with
    | [] => [plainText field]
    | paths => paths

end DiagServer.Posix.Shell
