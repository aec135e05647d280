import DiagServer.Posix.Shell.Syntax

/-!
# The text of a script

A script is read from its text, character by character; a backslash at the end of a line joins it
with the next one. A token may be looked at before it is taken. Texts that commands take from the
lines below them wait until the end of the line.
-/

namespace DiagServer.Posix.Shell

/-- What a script is cut into. -/
inductive Token where
  | word (w : Word)
  /-- A word that has a meaning of its own where it stands. -/
  | keyword (name : String)
  | operator (text : String)
  | arrow (descriptor : Nat) (direction : Direction)
  /-- An arrow that takes a text from below; tabs at the start of its lines may be dropped. -/
  | hereArrow (descriptor : Nat) (tabs : Bool)
  | newline
  | finish

/-- A text below that was asked for: the number that it is kept under, and the line that ends
it. -/
structure Pending where
  index : Nat
  ending : List Char
  /-- Whether nothing in the text is expanded. -/
  literal : Bool
  /-- Whether tabs at the start of its lines are dropped. -/
  tabs : Bool

/-- A script that is being read. -/
structure Source where
  rest : List Char
  line : Nat := 1
  /-- A token that was looked at. -/
  ahead : Option Token := none
  pending : List Pending := []
  /-- The texts that redirections take from the script. -/
  documents : Array Word := #[]
  /-- Names that stand for texts. -/
  aliases : List (List Char × List Char) := []
  /-- The names whose texts are being read, with the number of characters behind those. -/
  replacing : List (List Char × Nat) := []

/-- A step of reading. -/
abbrev Reader := EStateM Fault Source

/-- The script makes no sense here. -/
def fault {α : Type} (what : String) : Reader α := do throw ⟨(← get).line, what⟩

/-- Count the end of a line. -/
def countLine (c : Char) (line : Nat) : Nat := if c = '\n' then line + 1 else line

/-- A text without the joined ends of lines at its front, and the number of the line. -/
def skipJoins : List Char → Nat → List Char × Nat
  | '\\' :: '\n' :: cs, line => skipJoins cs (line + 1)
  | cs, line => (cs, line)

/-- The next character, behind any joined ends of lines; it is not taken. -/
def peek : Reader (Option Char) := do
  let s ← get
  let (rest, line) := skipJoins s.rest s.line
  set { s with rest, line }
  return rest.head?

/-- Take the next character as it is. -/
def takeRaw : Reader (Option Char) := do
  let s ← get
  match s.rest with
  | [] => return none
  | c :: rest =>
      set { s with rest, line := countLine c s.line }
      return some c

/-- Take the next character, behind any joined ends of lines. -/
def takeChar : Reader (Option Char) := do
  let _ ← peek
  takeRaw

/-- Take the next character if it is this one. -/
def takeIf (c : Char) : Reader Bool := do
  if (← peek) = some c then
    let _ ← takeRaw
    return true
  else return false

/-- Take characters as long as they are of a kind. The first argument bounds their number. -/
def takeWhileIs (kind : Char → Bool) : Nat → List Char → Reader (List Char)
  | 0, seen => return seen.reverse
  | fuel + 1, seen => do
      match ← peek with
      | some c =>
          if kind c then
            let _ ← takeRaw
            takeWhileIs kind fuel (c :: seen)
          else return seen.reverse
      | none => return seen.reverse

/-- A bound for the number of characters that are left. -/
def remaining : Reader Nat := do return (← get).rest.length + 1

/-- Read a name. -/
def takeName : Reader (List Char) := do takeWhileIs isNameChar (← remaining) []

end DiagServer.Posix.Shell
