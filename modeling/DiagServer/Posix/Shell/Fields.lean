import DiagServer.Posix.CharClass

/-!
# From an expanded word to fields

An expanded word is a list of cells: characters, the places of quotes, and what tells where it is
split. A stretch that an expansion gave is split at separators: blanks together count as one, with
at most one other separator among them; and where arguments meet there is a gap, which splits in
any case. What is written in the script is not split.
-/

namespace DiagServer.Posix.Shell

/-- A cell of an expanded word. -/
inductive Cell where
  /-- A character; with `splits`, it may separate fields. -/
  | char (quoted splits : Bool) (c : Char)
  /-- The place of a quote. -/
  | mark
  /-- A stretch begins; with `whole`, only gaps split it. -/
  | edge (whole : Bool)
  /-- The end of an argument before the next one. -/
  | gap
deriving Repr, DecidableEq

/-- The cells of what an expansion gives. -/
def stretchOf (quoted : Bool) (text : List Char) : List Cell :=
  if quoted then text.map (.char true false) else .edge false :: text.map (.char false true)

/-- The text of cells; a gap counts for nothing. -/
def plainText (cells : List Cell) : List Char :=
  cells.filterMap fun
    | .char _ _ c => some c
    | _ => none

/-- Whether a character would have a meaning in a pattern. -/
def isPatternChar (c : Char) : Bool := "!*?[]=~:/-\\".toList.contains c

/-- The pattern that cells stand for: a quoted character stands for itself. The flag tells whether
a backslash came before. -/
def patternFrom : Bool → List Cell → List Char
  | _, [] => []
  | escaped, .char quoted _ c :: cells =>
      if quoted then
        (if isPatternChar c ∧ ¬ escaped then ['\\', c] else [c]) ++ patternFrom false cells
      else c :: patternFrom (c = '\\') cells
  | escaped, _ :: cells => patternFrom escaped cells

/-- The pattern that cells stand for. -/
def patternOf (cells : List Cell) : List Char := patternFrom false cells

/-! ## Splitting -/

/-- What separates fields: the separators, with blanks among them or not. -/
structure Separators where
  chars : List Char

/-- The blanks that count together. -/
def isSplitBlank (c : Char) : Bool := c = ' ' || c = '\t' || c = '\n'

namespace Separators

/-- The separators if nothing is told. -/
def usual : Separators := ⟨[' ', '\t', '\n']⟩

/-- Whether a character separates fields. -/
def separates (s : Separators) (c : Char) : Bool := s.chars.contains c

end Separators

/-- What was passed since the last separator. -/
inductive Behind where
  | nothing
  /-- A blank was passed: more of them count together with it, and one other separator. -/
  | blank
  /-- Another separator was passed: blanks count together with it. -/
  | other
deriving DecidableEq

/-- Splitting so far. -/
structure Splitting where
  /-- The fields that are complete, newest first. -/
  done : List (List Cell) := []
  /-- The cells of the current field, newest first. -/
  current : List Cell := []
  behind : Behind := .nothing
  /-- Whether the last stretch is split by gaps only. -/
  whole : Bool := false
  /-- Whether the stretch before that was: then blanks do not count together. -/
  behindWhole : Bool := false

namespace Splitting

/-- Complete the current field. -/
def close (p : Splitting) (behind : Behind) : Splitting :=
  { p with done := p.current.reverse :: p.done, current := [], behind }

/-- Add a cell to the current field. -/
def add (p : Splitting) (cell : Cell) : Splitting :=
  { p with current := cell :: p.current, behind := .nothing }

/-- Go on behind a separator. -/
def separate (p : Splitting) (blank : Bool) : Splitting :=
  match p.behind, blank with
  | .nothing, true => if p.current = [] then p else p.close .blank
  | .nothing, false => p.close .other
  | _, true => p
  | .blank, false => { p with behind := .other }
  | .other, false => p.close .other

/-- Take account of a cell. -/
def step (s : Separators) (p : Splitting) (cell : Cell) : Splitting :=
  match cell with
  | .edge whole => { p with whole, behind := .nothing, behindWhole := p.whole }
  | .gap => if p.whole then p.close .nothing else p.separate true
  | .char _ true c =>
      if s.separates c then p.separate (isSplitBlank c && !p.behindWhole) else p.add cell
  | cell => p.add cell

/-- The fields in the end. Behind the last gap there is a field even if it is empty. -/
def finish (p : Splitting) : List (List Cell) :=
  (if p.whole ∨ p.current ≠ [] then p.current.reverse :: p.done else p.done).reverse

end Splitting

/-- The fields of an expanded word. -/
def fieldsOf (s : Separators) (cells : List Cell) : List (List Cell) :=
  (cells.foldl (Splitting.step s) {}).finish

/-! ## Lines -/

/-- A line that is given to variables so far. -/
structure LineSplitting where
  /-- The values of the variables that have theirs, newest first. -/
  done : List (List Char) := []
  /-- The value of the current variable, newest character first. -/
  current : List Char := []
  behind : Behind := .nothing
  /-- The number of variables that are still to be given values behind this one. -/
  left : Nat
  /-- The value of the last variable up to where its end may be cut off. -/
  cut : Option (List Char) := none
  /-- Whether the last variable has met its first separator. -/
  last : Bool := false

namespace LineSplitting

/-- Take account of a character for the last variable. -/
def stepLast (p : LineSplitting) (separates : Bool) (c : Char) : LineSplitting :=
  let current := c :: p.current
  if separates ∧ isSplitBlank c then { p with current, cut := p.cut <|> some p.current }
  else
    let kept := separates && p.behind = .blank
    { p with current, cut := if kept then p.cut else none, behind := .nothing }

/-- Go on behind a separator. -/
def separate (p : LineSplitting) (c : Char) : LineSplitting :=
  let blank := isSplitBlank c
  let behind : Behind := if blank then .blank else .other
  if p.behind = .blank ∧ ¬ blank then { p with behind := .other }
  else if blank ∧ (p.behind ≠ .nothing ∨ p.current = []) then p
  else
    match p.left with
    | 0 => { p with current := c :: p.current, cut := some p.current, last := true, behind }
    | left + 1 => { p with done := p.current.reverse :: p.done, current := [], left, behind }

/-- Take account of a character, which may separate values. -/
def step (s : Separators) (p : LineSplitting) (cell : Bool × Char) : LineSplitting :=
  let (splits, c) := cell
  let separates := splits && s.separates c
  let p := if splits then p else { p with behind := .nothing }
  if p.last then
    if splits then p.stepLast separates c else { p with current := c :: p.current }
  else if separates then p.separate c
  else { p with current := c :: p.current, behind := .nothing }

/-- The values in the end. -/
def finish (p : LineSplitting) : List (List Char) :=
  let last := (p.cut.getD p.current).reverse
  (if last = [] then p.done else last :: p.done).reverse

end LineSplitting

/-- The values of so many variables in a line, as far as it has any. A character that may not
separate comes with `false`. -/
def valuesOf (s : Separators) (count : Nat) (line : List (Bool × Char)) : List (List Char) :=
  (line.foldl (LineSplitting.step s) { left := count - 1 }).finish

end DiagServer.Posix.Shell
