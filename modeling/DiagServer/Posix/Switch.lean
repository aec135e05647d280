import DiagServer.Posix.Stream

/-!
# Switches among arguments

An argument that starts with a dash holds switches: letters behind one dash, or one name behind
two, of which the front is enough if it fits no other name. A switch may take a value, which is
the rest of its argument or the next one. Two dashes alone end the switches.
-/

namespace DiagServer.Posix

/-- A switch that a utility knows. -/
structure Switch where
  letter : Char
  name : String := ""
  /-- Whether it takes a value. -/
  valued : Bool := false
deriving Repr, DecidableEq

/-- A switch that was given: its letter, and its value if it takes one. -/
abbrev Given := Char × List Char

/-- Whether an argument holds switches. -/
def isSwitches (arg : List Char) : Bool := arg.head? = some '-' && arg ≠ ['-']

/-- The switch with a name, or else the only one whose name starts like that. -/
def Switch.named? (known : List Switch) (name : List Char) : Option Switch :=
  match known.find? (·.name.toList = name) with
  | some s => some s
  | none =>
      match known.filter fun s => name.isPrefixOf s.name.toList with
      | [s] => some s
      | _ => none

/-- Read letters behind one dash: the switches, and the last letter if its value has to follow. -/
def readLetters (known : List Switch) : List Char → Option (List Given × Option Char)
  | [] => some ([], none)
  | c :: cs => do
      let s ← known.find? (·.letter = c)
      if s.valued then
        if cs = [] then some ([], some c) else some ([(c, cs)], none)
      else
        let (given, pending) ← readLetters known cs
        some ((c, []) :: given, pending)

/-- Read an argument with switches: these, and the letter whose value has to follow. -/
def readSwitch (known : List Switch) (arg : List Char) : Option (List Given × Option Char) :=
  match arg with
  | '-' :: '-' :: text => do
      let s ← Switch.named? known (text.takeWhile (· ≠ '='))
      match s.valued, text.dropWhile (· ≠ '=') with
      | false, [] => some ([(s.letter, [])], none)
      | true, [] => some ([], some s.letter)
      | true, _ :: value => some ([(s.letter, value)], none)
      | false, _ :: _ => none
  | _ => readLetters known (arg.drop 1)

/-- Read the switches among arguments, and what else there is; `none` if one is not known or
lacks its value. With `mixed`, switches may also come behind other arguments. `pending` is the
letter that waits for its value. -/
def readSwitchesFrom (known : List Switch) (mixed : Bool) :
    Option Char → List (List Char) → Option (List Given × List (List Char))
  | none, [] => some ([], [])
  | some _, [] => none
  | some letter, value :: args => do
      let (given, operands) ← readSwitchesFrom known mixed none args
      some ((letter, value) :: given, operands)
  | none, arg :: args =>
      if arg = ['-', '-'] then some ([], args)
      else if isSwitches arg then do
        let (given, pending) ← readSwitch known arg
        let (later, operands) ← readSwitchesFrom known mixed pending args
        some (given ++ later, operands)
      else if mixed then do
        let (given, operands) ← readSwitchesFrom known mixed none args
        some (given, arg :: operands)
      else some ([], arg :: args)

/-- Read the switches among arguments, and what else there is. -/
def readSwitches (known : List Switch) (mixed : Bool) (args : List (List Char)) :
    Option (List Given × List (List Char)) :=
  readSwitchesFrom known mixed none args

/-- Whether a letter is among the switches. -/
def isGiven (given : List Given) (c : Char) : Bool := given.any (·.1 = c)

/-- Arguments without two dashes at their start. -/
def dropDashes (args : List (List Char)) : List (List Char) :=
  if args.head? = some ['-', '-'] then args.tail else args

end DiagServer.Posix
