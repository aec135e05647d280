import DiagServer.Decimal.Binary64

/-!
# Numbers with a given number of places

The exact value of a binary number is rounded once, to a number of decimal places or of digits,
and a tie goes to the even neighbour. A scientific form has one digit before the point; a
hexadecimal one shows the bits of the significand.
-/

namespace DiagServer.Decimal.Magnitude

/-- The number in units of `10^-places`. -/
def inPlaces (x : Magnitude) (places : Nat) : Nat :=
  let (a, b) := x.ratio
  roundQuotient (a * Nat.pow 10 places) b

/-- The number of digits of the whole part of `a / b`. -/
def wholeLength (a b : Nat) : Nat := (Nat.toDigits 10 (a / b)).length

/-- The exponent of ten of the first digit; zero has that of one. -/
def leadingPlace (x : Magnitude) : Int :=
  let (a, b) := x.ratio
  if a = 0 then 0
  else if b ≤ a then wholeLength a b - 1
  else
    let n := wholeLength b a
    if b ≤ a * Nat.pow 10 (n - 1) then -((n - 1 : Nat) : Int) else -(n : Int)

/-- The digits of the scientific form with `places` of them behind the point, as one number, and
its exponent. -/
def scientific (x : Magnitude) (places : Nat) : Nat × Int :=
  let (a, b) := x.ratio
  let e := x.leadingPlace
  let unit : Int := e - places
  let digits :=
    if unit < 0 then roundQuotient (a * Nat.pow 10 (-unit).toNat) b
    else roundQuotient a (b * Nat.pow 10 unit.toNat)
  if digits = Nat.pow 10 (places + 1) then (digits / 10, e + 1) else (digits, e)

/-- Digits with at least one digit before `places` of them. -/
def splitPlaces (digits places : Nat) : List Char × List Char :=
  let ds := Nat.toDigits 10 digits
  let ds := List.replicate (places + 1 - ds.length) '0' ++ ds
  (ds.take (ds.length - places), ds.drop (ds.length - places))

/-- The significand of a number of a format in hexadecimal: its first digit and those behind the
point, with the exponent of two. The first digit takes the bits that the others leave; where
rounding takes it beyond one digit it becomes one. The number of digits behind the point may be
given. -/
def hexadecimal (f : Format) (x : Magnitude) (places : Option Nat) : Nat × List Char × Int :=
  let count := (f.bits - 1) / 4
  let kept := min (places.getD count) count
  let n := roundQuotient x.significand (1 <<< (4 * (count - kept)))
  let ds := if kept = 0 then [] else Nat.toDigits 16 (n % (1 <<< (4 * kept)))
  let ds := List.replicate (kept - ds.length) '0' ++ ds
  let ds :=
    match places with
    | some p => ds ++ List.replicate (p - kept) '0'
    | none => (ds.reverse.dropWhile (· = '0')).reverse
  let first := n >>> (4 * kept)
  let e := if x.significand = 0 then 0 else x.exponent + 4 * count
  if first = 16 then (1, ds, e + 4) else (first, ds, e)

end DiagServer.Decimal.Magnitude
