/-!
# Doubles as exact numbers

A finite double is a sign, a significand below 2^53 and a power of two not below −1074. Every
operation here computes with exact natural numbers and rounds once, to the nearest double with
ties to the even significand, so no step depends on the machine's floating point.
-/

namespace DiagServer.Decimal

/-- The number `significand · 2^exponent`. -/
structure Magnitude where
  significand : Nat
  exponent : Int
deriving Repr, DecidableEq

/-- A finite double. Zero keeps its sign. -/
structure Binary64 where
  negative : Bool
  magnitude : Magnitude
deriving Repr, DecidableEq

/-- The quotient nearest to `num / den`; a tie goes to the even one. -/
def roundQuotient (num den : Nat) : Nat :=
  let q := num / den
  let r := num % den
  if 2 * r < den then q
  else if den < 2 * r then q + 1
  else if q % 2 = 0 then q
  else q + 1

/-- `num / den / 2^exponent` as a numerator and a denominator. -/
def overPower (num den : Nat) (exponent : Int) : Nat × Nat :=
  if exponent < 0 then (num <<< (-exponent).toNat, den) else (num, den <<< exponent.toNat)

/-- A binary format: the bits of its significands, and the bounds of its exponents. -/
structure Format where
  bits : Nat
  least : Int
  greatest : Int
deriving Repr, DecidableEq

/-- The format of doubles. -/
def Format.double : Format := ⟨53, -1074, 971⟩

/-- The format with significands of 64 bits. -/
def Format.extended : Format := ⟨64, -16445, 16320⟩

/-- The exponent of the number of a format nearest to `num / den`, before rounding: it leaves a
quotient of at most so many bits, and of no fewer unless it is the least exponent. -/
def Format.exponentOf (f : Format) (num den : Nat) : Int :=
  let low : Int := (num.log2 : Int) - (den.log2 : Int) - f.bits
  let (n, d) := overPower num den low
  max (if n / d < 1 <<< f.bits then low else low + 1) f.least

/-- The number of a format nearest to `num / den`, `none` when that is beyond the largest one. -/
def Format.nearest? (f : Format) (num den : Nat) : Option Magnitude :=
  let exponent := f.exponentOf num den
  let (n, d) := overPower num den exponent
  let significand := roundQuotient n d
  let rounded : Magnitude :=
    if significand = 1 <<< f.bits then ⟨1 <<< (f.bits - 1), exponent + 1⟩
    else ⟨significand, exponent⟩
  if f.greatest < rounded.exponent then none else some rounded

namespace Magnitude

/-- The double nearest to `num / den`, `none` when that is beyond the largest one. -/
def nearest? (num den : Nat) : Option Magnitude := Format.double.nearest? num den

/-- The number as a numerator and a denominator. -/
def ratio (x : Magnitude) : Nat × Nat := overPower x.significand 1 (-x.exponent)

/-- The rounded product of two doubles. -/
def mul? (x y : Magnitude) : Option Magnitude :=
  let (a, b) := x.ratio
  let (c, d) := y.ratio
  nearest? (a * c) (b * d)

/-- The rounded quotient of two doubles, the second not zero. -/
def div? (x y : Magnitude) : Option Magnitude :=
  let (a, b) := x.ratio
  let (c, d) := y.ratio
  nearest? (a * d) (b * c)

/-- The double nearest to `10^k`. -/
def powerOfTen? (k : Nat) : Option Magnitude := nearest? (Nat.pow 10 k) 1

/-- Divide by `10^k` in steps of at most `10^308`, stopping early at zero. -/
def divPowerOfTen? (x : Magnitude) (k : Nat) : Option Magnitude :=
  if k ≤ 308 then do x.div? (← powerOfTen? k)
  else if x.significand = 0 then some x
  else do (← x.div? (← powerOfTen? 308)).divPowerOfTen? (k - 308)
termination_by k

/-- Multiply by `10^k`; beyond `10^308` only zero stays in range. -/
def mulPowerOfTen? (x : Magnitude) (k : Nat) : Option Magnitude :=
  if k ≤ 308 then do x.mul? (← powerOfTen? k)
  else if x.significand = 0 then some x
  else none

/-- `significand · 10^exponent`, rounded first to a double for the significand and again for
each power of ten it is scaled by. -/
def ofDecimal? (significand : Nat) (exponent : Int) : Option Magnitude := do
  let x ← nearest? significand 1
  if exponent < 0 then x.divPowerOfTen? (-exponent).toNat else x.mulPowerOfTen? exponent.toNat

end Magnitude

end DiagServer.Decimal
