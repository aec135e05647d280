import DiagServer.Decimal.Binary64
import DiagServer.Toml.Basic
import DiagServer.Toml.Quoted

/-!
# Plain TOML values

Booleans, numbers, dates and times are words without quotes. Underscores may stand between the
digits of a number. An integer has at most 128 bits, and a float does not go beyond the largest
double. A date may be followed by a time, behind a letter or a single space.
-/

namespace DiagServer.Toml

/-- The value of a decimal digit. -/
def digitValue? (c : Char) : Option Nat := (hexValue? c).filter (· < 10)

/-- Whether a character is a decimal digit. -/
def isDigit (c : Char) : Bool := (digitValue? c).isSome

/-- Whether a character may stand in a plain word. -/
def isWordChar (c : Char) : Bool :=
  c.isAlphanum || c = '+' || c = '-' || c = '.' || c = ':' || c = '_'

/-! ## Numbers -/

/-- The digits of a number, without the underscores between them. The flag tells whether a digit
came last. -/
def digitsOf? (value? : Char → Option Nat) : Bool → List Char → Option (List Nat)
  | afterDigit, [] => if afterDigit then some [] else none
  | afterDigit, c :: cs =>
      match value? c with
      | some d => (digitsOf? value? true cs).map (d :: ·)
      | none => if c = '_' ∧ afterDigit then digitsOf? value? false cs else none

/-- The digits of a number in some base below or equal to sixteen. -/
def digitsIn? (base : Nat) (cs : List Char) : Option (List Nat) :=
  digitsOf? (fun c => (hexValue? c).filter (· < base)) false cs

/-- The number that digits stand for. -/
def ofDigits (base : Nat) (digits : List Nat) : Nat :=
  digits.foldl (fun value d => value * base + d) 0

/-- The number that digits stand for if it has less than 130 of them, else what the first 129 stand
for. That is beyond what an integer or an exponent can be, in every base. -/
def ofFirstDigits (base : Nat) (digits : List Nat) : Nat :=
  ofDigits base ((digits.dropWhile (· = 0)).take 129)

/-- The sign of a number, and what is behind it. -/
def splitSign : List Char → Option Char × List Char
  | '+' :: cs => (some '+', cs)
  | '-' :: cs => (some '-', cs)
  | cs => (none, cs)

/-- Digits in base ten that do not start with an idle zero. -/
def wholeDigits? (cs : List Char) : Option (List Nat) :=
  (digitsIn? 10 cs).filter fun digits => digits.head? ≠ some 0 ∨ digits.length = 1

/-- The absolute value of an integer as far as it can count, `none` if the word is not one. Only an
integer without a sign has a base of its own. -/
def integer? (signed : Bool) (cs : List Char) : Option Nat :=
  let inBase (base : Nat) (cs : List Char) : Option Nat :=
    if signed then none else (digitsIn? base cs).map (ofFirstDigits base)
  match cs with
  | '0' :: 'x' :: cs => inBase 16 cs
  | '0' :: 'o' :: cs => inBase 8 cs
  | '0' :: 'b' :: cs => inBase 2 cs
  | cs => (wholeDigits? cs).map (ofFirstDigits 10)

/-- Whether a word is an integer of at most 128 bits. -/
def isInteger (cs : List Char) : Bool :=
  let (sign, cs) := splitSign cs
  match integer? sign.isSome cs with
  | none => false
  | some n => if sign = some '-' then n ≤ 1 <<< 127 else n < 1 <<< 128

/-- Whether the number with these digits, times `10^exponent`, is beyond the largest double. -/
def isBeyond (digits : List Nat) (exponent : Int) : Bool :=
  let digits := digits.dropWhile (· = 0)
  let top : Int := digits.length + exponent
  if digits = [] ∨ top < 300 then false
  else if 320 < top then true
  else if exponent < 0 then
    (Decimal.Magnitude.nearest? (ofDigits 10 digits) (Nat.pow 10 (-exponent).toNat)).isNone
  else (Decimal.Magnitude.nearest? (ofDigits 10 digits * Nat.pow 10 exponent.toNat) 1).isNone

/-- The exponent of a float behind its letter. -/
def exponent? (cs : List Char) : Option Int :=
  let (sign, cs) := splitSign cs
  (digitsIn? 10 cs).map fun digits =>
    if sign = some '-' then -(ofFirstDigits 10 digits : Int) else ofFirstDigits 10 digits

/-- Whether a character is the letter before an exponent. -/
def isExponentMark (c : Char) : Bool := c = 'e' || c = 'E'

/-- Whether a word is a float. One written in digits has a point, an exponent or both. -/
def isFloat (cs : List Char) : Bool :=
  let (_, cs) := splitSign cs
  if cs = "inf".toList ∨ cs = "nan".toList then true
  else
    let mantissa := cs.takeWhile (!isExponentMark ·)
    let exponent :=
      match cs.dropWhile (!isExponentMark ·) with
      | [] => some 0
      | _ :: cs => exponent? cs
    let whole := wholeDigits? (mantissa.takeWhile (· ≠ '.'))
    let fraction :=
      match mantissa.dropWhile (· ≠ '.') with
      | [] => some []
      | _ :: cs => digitsIn? 10 cs
    match whole, fraction, exponent with
    | some whole, some fraction, some exponent =>
        (cs.any isExponentMark || cs.contains '.')
          && !isBeyond (whole ++ fraction) (exponent - fraction.length)
    | _, _, _ => false

/-! ## Dates and times -/

/-- The number that two decimal digits stand for. -/
def twoDigits? (a b : Char) : Option Nat := do
  some ((← digitValue? a) * 10 + (← digitValue? b))

/-- The number of days in a month. -/
def daysIn (year month : Nat) : Nat :=
  if month = 2 then
    if year % 4 = 0 ∧ (year % 100 ≠ 0 ∨ year % 400 = 0) then 29 else 28
  else if month ∈ [4, 6, 9, 11] then 30
  else 31

/-- What is left behind a date. -/
def skipDate? : List Char → Option (List Char)
  | a :: b :: c :: d :: '-' :: e :: f :: '-' :: g :: h :: rest => do
      let year := (← twoDigits? a b) * 100 + (← twoDigits? c d)
      let month ← twoDigits? e f
      let day ← twoDigits? g h
      if 1 ≤ month ∧ month ≤ 12 ∧ 1 ≤ day ∧ day ≤ daysIn year month then some rest else none
  | _ => none

/-- What is left behind hours and minutes. -/
def skipMinutes? : List Char → Option (List Char)
  | a :: b :: ':' :: c :: d :: rest => do
      if (← twoDigits? a b) ≤ 23 ∧ (← twoDigits? c d) ≤ 59 then some rest else none
  | _ => none

/-- What is left behind the fraction of a second, if there is one. -/
def skipFraction? : List Char → Option (List Char)
  | '.' :: c :: rest => if isDigit c then some (rest.dropWhile isDigit) else none
  | '.' :: [] => none
  | rest => some rest

/-- What is left behind a time. Its seconds may be left out, and may be sixty. -/
def skipTime? (cs : List Char) : Option (List Char) := do
  match ← skipMinutes? cs with
  | ':' :: a :: b :: rest => if (← twoDigits? a b) ≤ 60 then skipFraction? rest else none
  | ':' :: _ => none
  | rest => some rest

/-- Whether a word is a distance from universal time. -/
def isOffset : List Char → Bool
  | [c] => c = 'Z' || c = 'z'
  | c :: cs => (c = '+' || c = '-') && skipMinutes? cs = some []
  | [] => false

/-- Whether a word is a date, a time, or a date with a time. -/
def isMoment (cs : List Char) : Bool :=
  match skipDate? cs with
  | none => skipTime? cs = some []
  | some [] => true
  | some (c :: rest) =>
      (c = 'T' || c = 't' || c = ' ') &&
        match skipTime? rest with
        | none => false
        | some rest => rest.isEmpty || isOffset rest

/-! ## Words -/

/-- The kind of value that a word is. -/
def kindOf? (cs : List Char) : Option Kind :=
  if cs = "true".toList ∨ cs = "false".toList then some .boolean
  else if isInteger cs then some .integer
  else if isFloat cs then some .float
  else if isMoment cs then some .moment
  else none

/-- The word at the front of a text, and what is left. A single space between a date and a digit
belongs to the word. -/
def splitWord (cs : List Char) : List Char × List Char :=
  let word := cs.takeWhile isWordChar
  match skipDate? word, cs.dropWhile isWordChar with
  | some [], ' ' :: c :: rest =>
      if isDigit c then
        (word ++ ' ' :: (c :: rest).takeWhile isWordChar, (c :: rest).dropWhile isWordChar)
      else (word, ' ' :: c :: rest)
  | _, rest => (word, rest)

/-- Read a plain value. -/
def readPlain (cs : List Char) : Option (Toml × List Char) :=
  let (word, rest) := splitWord cs
  (kindOf? word).map fun kind => (.plain kind, rest)

end DiagServer.Toml
