import DiagServer.Decimal.Places
import DiagServer.Posix.Number

/-!
# Floating-point numbers in texts

A number is read from decimal or hexadecimal digits with a point and an exponent, or from a word
for infinity or for what is no number, and rounded to a binary format. It is written with a
number of places, in scientific form, in the shorter of the two, or in hexadecimal.
-/

namespace DiagServer.Posix

open Decimal

/-- A floating-point number. -/
inductive Floating where
  | finite (negative : Bool) (m : Magnitude)
  | infinite (negative : Bool)
  | notANumber (negative : Bool)
deriving Repr, DecidableEq

namespace Floating

/-- Whether a number carries a minus sign. -/
def isNegative : Floating → Bool
  | .finite negative _ => negative
  | .infinite negative => negative
  | .notANumber negative => negative

/-! ## Reading -/

/-- A word at the front of a text, in capitals or small letters, and what is behind it. -/
def afterWord? (word : String) (cs : List Char) : Option (List Char) :=
  let n := word.length
  if (cs.take n).map Char.toLower = word.toList then some (cs.drop n) else none

/-- Read an exponent behind its mark, `none` if there is none. -/
def readExponent? (mark : Char) : List Char → Option (Int × List Char)
  | [] => none
  | c :: cs =>
      if c.toLower = mark then
        let (negative, cs) := splitSign cs
        if (cs.headD ' ').isDigit then
          let (n, rest) := readDigits 10 cs
          some (if negative then -(n : Int) else n, rest)
        else none
      else none

/-- Digits with a point among them: the digits, the number of them behind the point, and what is
left; `none` if there are no digits. -/
def readPointed? (base : Nat) (cs : List Char) : Option (List Char × Nat × List Char) :=
  let whole := cs.takeWhile (isDigitIn base)
  let rest := cs.dropWhile (isDigitIn base)
  let (fraction, rest) :=
    match rest with
    | '.' :: cs => (cs.takeWhile (isDigitIn base), cs.dropWhile (isDigitIn base))
    | rest => ([], rest)
  if whole = [] ∧ fraction = [] then none else some (whole ++ fraction, fraction.length, rest)

/-- The exponents of ten, above and below zero, from which on every number is too large or rounds
to zero. -/
def beyond : Int := 6000

/-- The number `digits · base^scale`, where the base is ten or a power of two that `scale` already
counts in twos. -/
def ofScaled (f : Format) (negative : Bool) (digits : Nat) (ten : Bool) (scale : Int) :
    Floating :=
  let top : Int := scale + (if ten then (Nat.toDigits 10 digits).length else digits.log2)
  let beyond := if ten then beyond else 4 * beyond
  let zero : Magnitude := ⟨0, f.least⟩
  let power (n : Nat) : Nat := if ten then Nat.pow 10 n else 1 <<< n
  if digits = 0 ∨ top < -beyond then .finite negative zero
  else if beyond < top then .infinite negative
  else
    let rounded :=
      if scale < 0 then f.nearest? digits (power (-scale).toNat)
      else f.nearest? (digits * power scale.toNat) 1
    match rounded with
    | some m => .finite negative m
    | none => .infinite negative

/-- What is left behind a remark in brackets that tells one non-number from another. -/
def skipRemark (cs : List Char) : List Char :=
  match cs with
  | '(' :: rest =>
      match rest.dropWhile fun c => c.isAlphanum || c = '_' with
      | ')' :: rest => rest
      | _ => cs
  | cs => cs

/-- Read the digits of a number behind its sign. -/
def readFinite? (f : Format) (negative : Bool) (cs : List Char) :
    Option (Floating × List Char) :=
  let decimal : Option (Floating × List Char) := do
    let (digits, places, rest) ← readPointed? 10 cs
    let (e, rest) := (readExponent? 'e' rest).getD (0, rest)
    some (ofScaled f negative (ofDigits 10 digits) true (e - places), rest)
  match cs with
  | '0' :: x :: rest =>
      if x = 'x' ∨ x = 'X' then
        match readPointed? 16 rest with
        | some (digits, places, rest) =>
            let (e, rest) := (readExponent? 'p' rest).getD (0, rest)
            some (ofScaled f negative (ofDigits 16 digits) false (e - 4 * places), rest)
        | none => decimal
      else decimal
  | _ => decimal

/-- Read a number from the front of a text. -/
def read? (f : Format) (cs : List Char) : Option (Floating × List Char) :=
  let (negative, cs) := splitSign (cs.dropWhile isSpace)
  match afterWord? "infinity" cs, afterWord? "inf" cs, afterWord? "nan" cs with
  | some rest, _, _ => some (.infinite negative, rest)
  | none, some rest, _ => some (.infinite negative, rest)
  | none, none, some rest => some (.notANumber negative, skipRemark rest)
  | none, none, none => readFinite? f negative cs

/-! ## Writing -/

/-- The parts of a written number: what stands before any filling, and what stands behind it;
and whether zeros may fill it up. -/
structure Written where
  front : List Char := []
  body : List Char
  fillable : Bool := true

/-- Digits before and behind a point, which stands only if there is something behind it or if it
is asked for. -/
def pointed (point : Bool) (parts : List Char × List Char) : List Char :=
  parts.1 ++ (if parts.2 ≠ [] ∨ point then ['.'] else []) ++ parts.2

/-- Digits behind a point without the zeros at their end. -/
def dropZeros (parts : List Char × List Char) : List Char × List Char :=
  (parts.1, (parts.2.reverse.dropWhile (· = '0')).reverse)

/-- An exponent of ten, in two digits at least. -/
def exponentText (e : Int) : List Char :=
  let ds := Nat.toDigits 10 e.natAbs
  'e' :: (if e < 0 then '-' else '+') :: (List.replicate (2 - ds.length) '0' ++ ds)

/-- A finite number by a conversion in small letters. -/
def writeFinite (f : Format) (m : Magnitude) (kind : Char) (places : Option Nat) (point : Bool) :
    Written :=
  if kind = 'a' then
    let (first, ds, e) := m.hexadecimal f places
    let sign := if e < 0 then '-' else '+'
    { front := ['0', 'x']
      body := pointed point (Nat.toDigits 16 first, ds) ++ 'p' :: sign :: Nat.toDigits 10 e.natAbs }
  else if kind = 'f' then
    let p := places.getD 6
    { body := pointed point (Magnitude.splitPlaces (m.inPlaces p) p) }
  else if kind = 'e' then
    let p := places.getD 6
    let (digits, e) := m.scientific p
    { body := pointed point (Magnitude.splitPlaces digits p) ++ exponentText e }
  else
    let p := max (places.getD 6) 1
    let trim := fun parts => if point then parts else dropZeros parts
    let (digits, e) := m.scientific (p - 1)
    if e < -4 ∨ (p : Int) ≤ e then
      { body := pointed point (trim (Magnitude.splitPlaces digits (p - 1))) ++ exponentText e }
    else
      let q := ((p : Int) - 1 - e).toNat
      { body := pointed point (trim (Magnitude.splitPlaces (m.inPlaces q) q)) }

/-- A number without its sign, by a conversion in small letters. -/
def write (f : Format) (x : Floating) (kind : Char) (places : Option Nat) (point : Bool) :
    Written :=
  match x with
  | .finite _ m => writeFinite f m kind places point
  | .infinite _ => { body := ['i', 'n', 'f'], fillable := false }
  | .notANumber _ => { body := ['n', 'a', 'n'], fillable := false }

end Floating

end DiagServer.Posix
