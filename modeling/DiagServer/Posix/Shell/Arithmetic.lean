import DiagServer.Posix.Shell.State

/-!
# Arithmetic in scripts

Expressions of integers and variables, with the usual operators and precedence. Integers have 64
bits, and a variable may be set on the way. In the branch of a choice that is not taken nothing is
looked up and nothing is set.
-/

namespace DiagServer.Posix.Shell

/-- A token of an expression. -/
inductive Symbol where
  | number (i : Int)
  | name (text : List Char)
  | operator (text : String)
  | finish
deriving Repr, DecidableEq

/-- The operators, those of more characters first. -/
def operators : List String :=
  ["<<=", ">>=", "<<", ">>", "<=", ">=", "==", "!=", "&&", "||", "+=", "-=", "*=", "/=", "%=", "&=",
    "|=", "^=", "+", "-", "*", "/", "%", "<", ">", "=", "!", "~", "&", "|", "^", "?", ":", "(", ")"]

/-- Cut a token off an expression. -/
def readSymbol (cs : List Char) : Symbol × List Char :=
  let cs := cs.dropWhile isSpace
  match cs with
  | [] => (.finish, [])
  | c :: _ =>
      if c.isDigit then
        match readNumeral? cs with
        | some n => (.number n.signed, n.rest)
        | none => (.operator "", cs)
      else if isNameStart c then (.name (cs.takeWhile isNameChar), cs.dropWhile isNameChar)
      else
        match operators.find? fun o => o.toList.isPrefixOf cs with
        | some o => (.operator o, cs.drop o.length)
        | none => (.operator "", cs.drop 1)

/-- How tightly an operator of two operands binds. -/
def precedence? (o : String) : Option Nat :=
  [["|"], ["^"], ["&"], ["==", "!="], ["<", "<=", ">", ">="], ["<<", ">>"], ["+", "-"],
    ["*", "/", "%"]].findIdx? (·.contains o)

/-- The operator of two operands in an operator that sets a variable; empty if it only sets. -/
def setting? (o : String) : Option String :=
  ["=", "<<=", ">>=", "+=", "-=", "*=", "/=", "%=", "&=", "|=", "^="].find? (· = o)
    |>.map fun o => String.ofList o.toList.dropLast

/-- An integer as a word of 64 bits. -/
def wordOfInt (i : Int) : Nat := (i % (UInt64.size : Int)).toNat

/-- The value of a condition. -/
def truth (p : Bool) : Int := if p then 1 else 0

/-- The value of an operator with two operands, the second of which is not zero if it divides. -/
def combine (o : String) (a b : Int) : Int :=
  let bits (f : Nat → Nat → Nat) : Int := f (wordOfInt a) (wordOfInt b)
  wrap <|
    match o with
    | "+" => a + b
    | "-" => a - b
    | "*" => a * b
    | "/" => a.tdiv b
    | "%" => a.tmod b
    | "<<" => a * (1 <<< (wordOfInt b % 64) : Nat)
    | ">>" => a / (1 <<< (wordOfInt b % 64) : Nat)
    | "<" => truth (a < b)
    | "<=" => truth (a ≤ b)
    | ">" => truth (b < a)
    | ">=" => truth (b ≤ a)
    | "==" => truth (a = b)
    | "!=" => truth (a ≠ b)
    | "&" => bits (· &&& ·)
    | "^" => bits (· ^^^ ·)
    | _ => bits (· ||| ·)

/-- The value of a variable as an integer. -/
def integerIn (name : List Char) : Run Int := do
  let text := ((← get).value? name).getD []
  match readNumeral? text with
  | some n =>
      if n.rest.all isSpace ∧ n.isSigned then return n.signed
      else fail ("Illegal number: ".toList ++ text)
  | none =>
      if text.all isSpace then return 0 else fail ("Illegal number: ".toList ++ text)

/-- An expression that is being evaluated: its text, and whether it counts for nothing. -/
structure Evaluation where
  whole : List Char
  idle : Bool := false

namespace Evaluation

/-- The expression makes no sense. -/
def refuse {α : Type} (e : Evaluation) (what : String) : Run α :=
  fail ("arithmetic expression: ".toList ++ what.toList ++ ": \"".toList ++ e.whole ++ ['"'])

/-- The evaluation of a part that counts for nothing if this holds. -/
def idleIf (e : Evaluation) (p : Bool) : Evaluation := { e with idle := e.idle || p }

/-- Combine two values by an operator. -/
def apply (e : Evaluation) (o : String) (a b : Int) : Run Int := do
  if e.idle then return b
  if (o = "/" ∨ o = "%") ∧ b = 0 then e.refuse "division by zero"
  return combine o a b

mutual

/-- The value of one operand, and what is behind it. -/
def operand (e : Evaluation) : Nat → List Char → Run (Int × List Char)
  | 0, _ => e.refuse "expecting primary"
  | fuel + 1, cs => do
      let negated (f : Int → Int) (cs : List Char) : Run (Int × List Char) := do
        let (i, cs) ← operand e fuel cs
        return (f i, cs)
      match readSymbol cs with
      | (.number i, cs) => return (i, cs)
      | (.name name, cs) => return (← if e.idle then pure 0 else integerIn name, cs)
      | (.operator "(", cs) =>
          let (i, cs) ← assignment e fuel cs
          match readSymbol cs with
          | (.operator ")", cs) => return (i, cs)
          | _ => e.refuse "expecting ')'"
      | (.operator "+", cs) => operand e fuel cs
      | (.operator "-", cs) => negated (fun i => wrap (-i)) cs
      | (.operator "!", cs) => negated (fun i => truth (i = 0)) cs
      | (.operator "~", cs) => negated (fun i => -i - 1) cs
      | _ => e.refuse "expecting primary"

/-- Go on behind a value with operators that bind at least so tightly. -/
def tightly (e : Evaluation) : Nat → Nat → Int → List Char → Run (Int × List Char)
  | 0, _, _, _ => e.refuse "expecting primary"
  | fuel + 1, least, a, cs => do
      match readSymbol cs with
      | (.operator o, rest) =>
          match precedence? o with
          | some p =>
              if p < least then return (a, cs)
              let (b, rest) ← operand e fuel rest
              let (b, rest) ← tightly e fuel (p + 1) b rest
              tightly e fuel least (← e.apply o a b) rest
          | none => return (a, cs)
      | _ => return (a, cs)

/-- The value of conditions that all have to hold. -/
def conjunction (e : Evaluation) : Nat → List Char → Run (Int × List Char)
  | 0, _ => e.refuse "expecting primary"
  | fuel + 1, cs => do
      let (a, cs) ← operand e fuel cs
      let (a, cs) ← tightly e fuel 0 a cs
      match readSymbol cs with
      | (.operator "&&", rest) =>
          let (b, rest) ← conjunction (e.idleIf (a = 0)) fuel rest
          return (truth (a ≠ 0 && b ≠ 0), rest)
      | _ => return (a, cs)

/-- The value of conditions of which one has to hold. -/
def disjunction (e : Evaluation) : Nat → List Char → Run (Int × List Char)
  | 0, _ => e.refuse "expecting primary"
  | fuel + 1, cs => do
      let (a, cs) ← conjunction e fuel cs
      match readSymbol cs with
      | (.operator "||", rest) =>
          let (b, rest) ← disjunction (e.idleIf (a ≠ 0)) fuel rest
          return (truth (a ≠ 0 || b ≠ 0), rest)
      | _ => return (a, cs)

/-- The value of a choice. -/
def choice (e : Evaluation) : Nat → List Char → Run (Int × List Char)
  | 0, _ => e.refuse "expecting primary"
  | fuel + 1, cs => do
      let (a, cs) ← disjunction e fuel cs
      match readSymbol cs with
      | (.operator "?", rest) =>
          let (b, rest) ← assignment (e.idleIf (a = 0)) fuel rest
          match readSymbol rest with
          | (.operator ":", rest) =>
              let (c, rest) ← choice (e.idleIf (a ≠ 0)) fuel rest
              return (if a ≠ 0 then b else c, rest)
          | _ => e.refuse "expecting ':'"
      | _ => return (a, cs)

/-- The value of an expression that may set a variable. -/
def assignment (e : Evaluation) : Nat → List Char → Run (Int × List Char)
  | 0, _ => e.refuse "expecting primary"
  | fuel + 1, cs => do
      match readSymbol cs with
      | (.name name, rest) =>
          match readSymbol rest with
          | (.operator o, rest) =>
              match setting? o with
              | some o =>
                  let (b, rest) ← assignment e fuel rest
                  if e.idle then return (b, rest)
                  let value ← if o = "" then pure b else e.apply o (← integerIn name) b
                  assign name (integerText value)
                  return (value, rest)
              | none => choice e fuel cs
          | _ => choice e fuel cs
      | _ => choice e fuel cs

end

end Evaluation

/-- The value of an expression. -/
def arithmetic (cs : List Char) : Run Int := do
  let e : Evaluation := { whole := cs }
  let (i, rest) ← e.assignment (8 * cs.length + 8) cs
  match readSymbol rest with
  | (.finish, _) => return i
  | _ => e.refuse "expecting EOF"

end DiagServer.Posix.Shell
