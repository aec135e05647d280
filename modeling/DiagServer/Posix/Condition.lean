import DiagServer.Posix.Utility

/-!
# Conditions

A condition is told by arguments: operands with operators before or between them, joined by and,
or, not and brackets. It holds or does not hold, or makes no sense.
-/

namespace DiagServer.Posix

namespace Condition

/-- How an operator is used. -/
inductive Use where
  | before
  | between
  | negation
  | and
  | or
  | opening
  | closing
deriving Repr, DecidableEq

/-- The operators that stand before an operand. -/
def unaryOperators : List String :=
  ["-r", "-w", "-x", "-e", "-f", "-d", "-c", "-b", "-p", "-u", "-g", "-k", "-s", "-t", "-z", "-n",
    "-h", "-O", "-G", "-L", "-S"]

/-- The operators that stand between operands. -/
def binaryOperators : List String :=
  ["=", "!=", "<", ">", "-eq", "-ne", "-ge", "-gt", "-le", "-lt", "-nt", "-ot", "-ef"]

/-- How an argument is used if it is an operator. -/
def use? (arg : List Char) : Option Use :=
  let among (names : List String) : Bool := names.any (·.toList = arg)
  if among unaryOperators then some .before
  else if among binaryOperators then some .between
  else if arg = ['!'] then some .negation
  else if arg = ['-', 'a'] then some .and
  else if arg = ['-', 'o'] then some .or
  else if arg = ['('] then some .opening
  else if arg = [')'] then some .closing
  else none

/-- Whether the argument at the front is an operand although it looks like an operator before
one: nothing follows, or an operator between operands does. -/
def standsAlone : List (List Char) → Bool
  | [_] => true
  | [_, _] => false
  | _ :: next :: _ => use? next = some .between
  | [] => true

/-- How the argument at the front is used; `none` if it is an operand. -/
def useAt? (args : List (List Char)) : Option Use :=
  match args with
  | [] => none
  | arg :: rest =>
      match use? arg with
      | some .before => if standsAlone args then none else some .before
      | some .opening => if rest = [] then none else some .opening
      | use => use

/-- Why a condition makes no sense: what is wrong, behind the argument where it shows. -/
structure Fault where
  parts : List (List Char)

/-- The number that an argument stands for. -/
def integer (arg : List Char) : Except Fault Int :=
  match integer? arg with
  | some i => .ok i
  | none => .error ⟨["Illegal number".toList, arg]⟩

/-- Compare operands. -/
def compare (operator a b : List Char) : Except Fault Bool := do
  let is (name : String) : Bool := operator = name.toList
  if is "=" then return a = b
  else if is "!=" then return a ≠ b
  else if is "<" then return a < b
  else if is ">" then return b < a
  else if is "-nt" ∨ is "-ot" then return false
  else if is "-ef" then return a = b
  else
    let a ← integer a
    let b ← integer b
    return if is "-eq" then a = b
      else if is "-ne" then a ≠ b
      else if is "-lt" then a < b
      else if is "-le" then a ≤ b
      else if is "-gt" then a > b
      else a ≥ b

/-- Whether a condition with one operand holds. -/
def check (fs : FileSystem) (operator operand : List Char) : Except Fault Bool := do
  let path := toBytes operand
  let entry := (fs.lookup path).toOption
  let place := (fs.resolve path).toOption
  let isDevice := place == some nullDevice || place == some zeroDevice
  let is (name : String) : Bool := operator = name.toList
  if is "-n" then return operand ≠ []
  else if is "-z" then return operand = []
  else if is "-t" then
    let _ ← integer operand
    return false
  else if is "-e" ∨ is "-r" ∨ is "-w" ∨ is "-O" ∨ is "-G" then return entry.isSome
  else if is "-d" then return entry = some .directory
  else if is "-c" then return isDevice
  else if is "-f" then return !isDevice && (match entry with | some (.file _) => true | _ => false)
  else if is "-s" then
    return match entry with
      | some (.file bytes) => bytes ≠ []
      | some .directory => true
      | _ => false
  else if is "-x" then return entry = some .directory || (programAt? fs path).isSome
  else return false

/-- What is left behind an argument; nothing is behind the end. -/
def behind (args : List (List Char)) : List (List Char) := args.drop 1

mutual

/-- Read conditions of which one has to hold. A reader gives what it found and the arguments from
the last one on that it used. -/
def readOr (fs : FileSystem) : Nat → List (List Char) → Except Fault (Bool × List (List Char))
  | 0, args => .ok (false, args)
  | fuel + 1, args => do
      let (a, args) ← readAnd fs fuel args
      if useAt? (behind args) = some .or then
        let (b, args) ← readOr fs fuel (args.drop 2)
        return (a || b, args)
      else return (a, args)

/-- Read conditions that all have to hold. -/
def readAnd (fs : FileSystem) : Nat → List (List Char) → Except Fault (Bool × List (List Char))
  | 0, args => .ok (false, args)
  | fuel + 1, args => do
      let (a, args) ← readNot fs fuel args
      if useAt? (behind args) = some .and then
        let (b, args) ← readAnd fs fuel (args.drop 2)
        return (a && b, args)
      else return (a, args)

/-- Read a condition that may be negated. -/
def readNot (fs : FileSystem) : Nat → List (List Char) → Except Fault (Bool × List (List Char))
  | 0, args => .ok (false, args)
  | fuel + 1, args => do
      if useAt? args = some .negation then
        let (a, args) ← readNot fs fuel (behind args)
        return (!a, args)
      else readOne fs fuel args

/-- Read a condition without and, or and not. -/
def readOne (fs : FileSystem) : Nat → List (List Char) → Except Fault (Bool × List (List Char))
  | 0, args => .ok (false, args)
  | fuel + 1, args => do
      match args with
      | [] => return (false, [])
      | a :: rest =>
          match useAt? args with
          | some .opening =>
              if useAt? rest = some .closing then return (false, rest)
              else
                let (x, args) ← readOr fs fuel rest
                let args := behind args
                if useAt? args = some .closing then return (x, args)
                else throw ⟨["closing paren expected".toList]⟩
          | some .before =>
              match rest with
              | [] => throw ⟨[a, "argument expected".toList]⟩
              | b :: _ => return (← check fs a b, rest)
          | _ =>
              match rest with
              | operator :: more =>
                  if useAt? rest = some .between then
                    match more with
                    | [] => throw ⟨[operator, "argument expected".toList]⟩
                    | b :: _ => return (← compare operator a b, more)
                  else return (a ≠ [], args)
              | [] => return (a ≠ [], args)

end

/-- Read a condition, which has to use all arguments but may leave one. -/
def readAll (fs : FileSystem) (args : List (List Char)) : Except Fault Bool := do
  let (a, rest) ← readOr fs (6 * args.length + 6) args
  match rest with
  | last :: _ :: _ => throw ⟨[last, "unexpected operator".toList]⟩
  | _ => return a

/-- Whether a condition holds. Up to four arguments are read by their number: an operator in the
middle of three, brackets around them, or negations in front, of which several count as one. -/
def holds (fs : FileSystem) (negated : Bool) : List (List Char) → Except Fault Bool
  | [] => .ok negated
  | args@(first :: rest) =>
      let result (found : Except Fault Bool) : Except Fault Bool := found.map (· != negated)
      let wrapped := first = ['('] && args.getLast? = some [')']
      match rest with
      | [operator, b] =>
          if use? operator = some .between then result (compare operator first b)
          else if wrapped then result (readAll fs rest.dropLast)
          else if first = ['!'] then holds fs true rest
          else result (readAll fs args)
      | [_, _, _] =>
          if wrapped then result (readAll fs rest.dropLast)
          else if first = ['!'] then holds fs true rest
          else result (readAll fs args)
      | _ => result (readAll fs args)

end Condition

/-- Tell by the status whether a condition holds. -/
def test : Utility := fun s args =>
  match Condition.holds s.files false args with
  | .ok a => { status := if a then 0 else 1, input := s.input }
  | .error f => { status := 2, errors := [(0, f.parts)], input := s.input }

/-- `test` by the name of a bracket, which a closing one has to match. -/
def bracket : Utility := fun s args =>
  if args.getLast? = some [']'] then test s args.dropLast
  else { status := 2, errors := [(0, ["missing ]".toList])], input := s.input }

end DiagServer.Posix
