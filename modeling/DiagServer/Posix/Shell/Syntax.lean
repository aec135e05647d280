/-!
# Shell scripts

A script is a sequence of commands. A command is made of words and redirections, or of other
commands. A word is made of parts, some of which are expanded when the word is used. The text
that a redirection takes from the script itself is kept apart, under a number.
-/

namespace DiagServer.Posix.Shell

/-- How a descriptor is led elsewhere. -/
inductive Direction where
  /-- From a file. -/
  | input
  /-- To a file, which is emptied first even if that is only done when told so. -/
  | output (told : Bool)
  /-- To the end of a file. -/
  | append
  /-- From and to a file. -/
  | both
  /-- To where another descriptor leads, or to nowhere if that is a dash. -/
  | duplicate
  /-- From a text of the script, which is kept under this number. -/
  | here (index : Nat)
deriving Repr, DecidableEq

/-- A redirection of a descriptor, to a target that is told by a word. -/
structure Redirection (word : Type) where
  descriptor : Nat
  direction : Direction
  target : word

mutual

/-- A part of a word. What a quoted part expands to is not split and holds no patterns. -/
inductive Part where
  | text (quoted : Bool) (s : List Char)
  /-- Where a quote stands, which makes a field even of nothing. -/
  | mark
  /-- The value of a parameter, by a rule. -/
  | parameter (quoted : Bool) (name : List Char) (rule : Rule)
  /-- The output of commands. -/
  | output (quoted : Bool) (c : Option Command)
  /-- The value of an expression. -/
  | arithmetic (quoted : Bool) (expression : List Part)

/-- What is made of the value of a parameter. Where a rule speaks of a missing value, an empty one
may count as missing too. -/
inductive Rule where
  | value
  /-- The number of its characters. -/
  | length
  /-- There is no such rule. -/
  | unknown
  /-- A word stands in for a missing value. -/
  | orElse (emptyToo : Bool) (word : List Part)
  /-- A word becomes the value if it is missing. -/
  | orAssign (emptyToo : Bool) (word : List Part)
  /-- A word tells what is wrong if the value is missing. -/
  | orFail (emptyToo : Bool) (word : List Part)
  /-- A word stands in unless the value is missing. -/
  | ifThere (emptyToo : Bool) (word : List Part)
  /-- The value without the part at its front or at its end that fits a pattern. -/
  | trim (front longest : Bool) (pattern : List Part)

/-- A command, with the line where it starts if that can be needed. -/
inductive Command where
  /-- Call a command by its name with arguments, with variables set for it. -/
  | simple (line : Nat) (assignments : List (List Char × List Part)) (words : List (List Part))
      (redirections : List (Redirection (List Part)))
  | redirected (line : Nat) (c : Command) (redirections : List (Redirection (List Part)))
  /-- A command that changes nothing of the shell. -/
  | subshell (line : Nat) (c : Command) (redirections : List (Redirection (List Part)))
  /-- A command that is not waited for. -/
  | background (c : Command)
  /-- Each command reads what the one before prints. -/
  | pipeline (cs : List Command)
  | negated (c : Command)
  /-- The second command is run if the first succeeds. -/
  | ifSucceeds (a b : Command)
  /-- The second command is run if the first fails. -/
  | ifFails (a b : Command)
  | sequence (a b : Command)
  | choice (condition yes : Command) (no : Option Command)
  /-- Repeat the body as long as the condition succeeds, or as long as it fails. -/
  | loop (succeeds : Bool) (condition body : Command)
  /-- Run the body for each word. -/
  | each (line : Nat) (name : List Char) (words : List (List Part)) (body : Command)
  /-- Run the command of the first arm that has a pattern for the word. -/
  | select (line : Nat) (word : List Part) (arms : List (List (List Part) × Option Command))
  /-- Keep a command under a name. -/
  | define (name : List Char) (body : Command)

end

/-- A word of a command. -/
abbrev Word := List Part

/-- Whether a character may start a name. -/
def isNameStart (c : Char) : Bool := c.isAlpha || c = '_'

/-- Whether a character may stand in a name. -/
def isNameChar (c : Char) : Bool := c.isAlphanum || c = '_'

/-- Whether a text is a name. -/
def isName (cs : List Char) : Bool := isNameStart (cs.headD ' ') && cs.all isNameChar

/-- Whether a character is a parameter of its own. -/
def isSpecial (c : Char) : Bool := "@*#?$!-".toList.contains c || c.isDigit

/-- The backquote. -/
def backquote : Char := '\x60'

/-- Why a script cannot be read, and the line where that shows. -/
structure Fault where
  line : Nat
  what : String
deriving Repr, DecidableEq

end DiagServer.Posix.Shell
