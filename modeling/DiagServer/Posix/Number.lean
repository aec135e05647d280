/-!
# Numbers in texts

Utilities read a number from the front of a text: blanks, a sign, and digits. Where the base is
left open the first digits tell it: sixteen behind `0x`, eight behind another zero, ten else.
What does not fit into 64 bits is replaced by the nearest number that does.
-/

namespace DiagServer.Posix

/-- Whether a character is a blank. -/
def isSpace (c : Char) : Bool := c = ' ' || ('\t' ≤ c && c ≤ '\r')

/-- The value of a digit, letters being the digits from ten on. -/
def digitOf? (c : Char) : Option Nat :=
  if c.isDigit then some (c.toNat - 0x30)
  else if c.isAlpha then some (c.toLower.toNat - 0x61 + 10)
  else none

/-- Whether a character is a digit of a base. -/
def isDigitIn (base : Nat) (c : Char) : Bool := ((digitOf? c).filter (· < base)).isSome

/-- The number that digits stand for. -/
def ofDigits (base : Nat) (cs : List Char) : Nat :=
  cs.foldl (fun n c => n * base + (digitOf? c).getD 0) 0

/-- Read the digits at the front of a text. -/
def readDigits (base : Nat) (cs : List Char) : Nat × List Char :=
  (ofDigits base (cs.takeWhile (isDigitIn base)), cs.dropWhile (isDigitIn base))

/-- A number at the front of a text. -/
structure Numeral where
  negative : Bool
  magnitude : Nat
  /-- What is left behind it. -/
  rest : List Char
deriving Repr, DecidableEq

/-- Split a sign off. -/
def splitSign : List Char → Bool × List Char
  | '-' :: cs => (true, cs)
  | '+' :: cs => (false, cs)
  | cs => (false, cs)

/-- Read a number in base ten, `none` if there are no digits. -/
def readDecimal? (cs : List Char) : Option Numeral :=
  let (negative, cs) := splitSign (cs.dropWhile isSpace)
  if (cs.headD ' ').isDigit then
    let (magnitude, rest) := readDigits 10 cs
    some ⟨negative, magnitude, rest⟩
  else none

/-- Read a number whose first digits tell its base, `none` if there are no digits. -/
def readNumeral? (cs : List Char) : Option Numeral :=
  let (negative, cs) := splitSign (cs.dropWhile isSpace)
  let inBase (base : Nat) (cs : List Char) : Option Numeral :=
    let (magnitude, rest) := readDigits base cs
    some ⟨negative, magnitude, rest⟩
  match cs with
  | '0' :: x :: d :: rest =>
      if (x = 'x' ∨ x = 'X') ∧ isDigitIn 16 d then inBase 16 (d :: rest)
      else inBase 8 ('0' :: x :: d :: rest)
  | '0' :: rest => inBase 8 ('0' :: rest)
  | c :: rest => if c.isDigit then inBase 10 (c :: rest) else none
  | [] => none

/-- The largest signed number. -/
def maxSigned : Int := 0x7FFFFFFFFFFFFFFF

/-- The least signed number. -/
def minSigned : Int := -0x8000000000000000

/-- The signed number nearest to a numeral. -/
def Numeral.signed (n : Numeral) : Int :=
  if n.negative then max minSigned (-(n.magnitude : Int)) else min maxSigned n.magnitude

/-- Whether a numeral is a signed number. -/
def Numeral.isSigned (n : Numeral) : Bool :=
  if n.negative then minSigned ≤ -(n.magnitude : Int) else (n.magnitude : Int) ≤ maxSigned

/-- The unsigned number of a numeral; a negative one is counted back from the largest. -/
def Numeral.unsigned (n : Numeral) : Nat :=
  if UInt64.size ≤ n.magnitude then UInt64.size - 1
  else if n.negative then (UInt64.size - n.magnitude) % UInt64.size
  else n.magnitude

/-- The number that a text of decimal digits stands for. -/
def number? (cs : List Char) : Option Nat :=
  if cs ≠ [] ∧ cs.all Char.isDigit then some (ofDigits 10 cs) else none

/-- The signed number that a whole text stands for, with blanks around it or not. -/
def integer? (cs : List Char) : Option Int :=
  match readDecimal? cs with
  | some n => if n.rest.all isSpace ∧ n.isSigned then some n.signed else none
  | none => none

/-- The decimal text of an integer. -/
def integerText (i : Int) : List Char :=
  if i < 0 then '-' :: Nat.toDigits 10 i.natAbs else Nat.toDigits 10 i.natAbs

/-- The signed number of 64 bits that an integer leaves when the higher bits are cut off. -/
def wrap (i : Int) : Int := i.bmod UInt64.size

end DiagServer.Posix
