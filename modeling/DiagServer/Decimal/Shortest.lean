import DiagServer.Decimal.Binary64

/-!
# The shortest decimal that reads back

The decimals that round to a given double form an interval around it, its ends included when
the significand is even. Among the grids `10^p`, coarsest first, the first one with a point in
that interval gives the fewest digits; on it only the two neighbours of the value matter, and
of two hits the nearer wins, the even one on a tie.

Zero and the numbers whose leading digit stands between `10^-5` and `10^15` are written
positionally with at least one digit on each side of the point, all others with an exponent
that carries its sign.
-/

namespace DiagServer.Decimal

/-- The number `digits · 10^exponent`. -/
structure Scaled where
  digits : Nat
  exponent : Int
deriving Repr, DecidableEq

namespace Magnitude

/-- Order of `d · 10^p` and `n / 4 · 2^q`, where `n` counts quarters of the last place. -/
def compareQuarters (d : Nat) (p : Int) (n : Nat) (q : Int) : Ordering :=
  let (a, b) := overPower n 4 (-q)
  let (l, r) :=
    if p < 0 then (d * b, a * Nat.pow 10 (-p).toNat) else (d * Nat.pow 10 p.toNat * b, a)
  compare l r

/-- Quarters of the last place between a double and the lower end of its interval. The gap
below a power of two is half as wide as the gap above it. -/
def lowerGap (x : Magnitude) : Nat :=
  if x.significand = 1 <<< 52 ∧ -1074 < x.exponent then 1 else 2

/-- Whether `d · 10^p` rounds to `x`. -/
def readsBack (x : Magnitude) (d : Nat) (p : Int) : Bool :=
  let low := compareQuarters d p (4 * x.significand - x.lowerGap) x.exponent
  let high := compareQuarters d p (4 * x.significand + 2) x.exponent
  let ends := x.significand % 2 = 0
  (low = .gt || (low = .eq && ends)) && (high = .lt || (high = .eq && ends))

/-- The largest multiple of `10^p` not above `x`, in units of `10^p`. -/
def floorAt (x : Magnitude) (p : Int) : Nat :=
  let (a, b) := x.ratio
  if p < 0 then a * Nat.pow 10 (-p).toNat / b else a / (b * Nat.pow 10 p.toNat)

/-- The point of the grid `10^p` that stands for `x`, if one does. -/
def onGrid? (x : Magnitude) (p : Int) : Option Scaled :=
  let below := x.floorAt p
  let above := below + 1
  match x.readsBack below p, x.readsBack above p with
  | true, false => some ⟨below, p⟩
  | false, true => some ⟨above, p⟩
  | false, false => none
  | true, true =>
      -- the midpoint of the two neighbours is `(2 · below + 1) / 2` units
      match compareQuarters (2 * below + 1) p (8 * x.significand) x.exponent with
      | .gt => some ⟨below, p⟩
      | .lt => some ⟨above, p⟩
      | .eq => some ⟨if below % 2 = 0 then below else above, p⟩

/-- A grid no finer than the first with a hit: its unit is above `x`. -/
def coarsestGrid (x : Magnitude) : Int :=
  ((x.significand.log2 : Int) + x.exponent) * 30103 / 100000 + 2

/-- The shortest decimal that rounds to `x`; seventeen digits always suffice. -/
def shortest (x : Magnitude) : Scaled :=
  ((List.range 24).findSome? fun (i : Nat) => x.onGrid? (x.coarsestGrid - i)).getD ⟨0, 0⟩

end Magnitude

/-- The exponent with its sign, as it follows the letter `e`. -/
def signedExponent (e : Int) : List Char :=
  (if e < 0 then '-' else '+') :: Nat.toDigits 10 e.natAbs

/-- A decimal's text. -/
def Scaled.text (s : Scaled) : List Char :=
  let ds := Nat.toDigits 10 s.digits
  let lead : Int := (ds.length : Int) - 1 + s.exponent
  if lead < -5 ∨ 15 < lead then
    match ds with
    | [d] => d :: 'e' :: signedExponent lead
    | d :: rest => d :: '.' :: rest ++ 'e' :: signedExponent lead
    | [] => []
  else if lead < 0 then
    ['0', '.'] ++ List.replicate (-lead - 1).toNat '0' ++ ds
  else if 0 ≤ s.exponent then
    ds ++ List.replicate s.exponent.toNat '0' ++ ['.', '0']
  else
    ds.take (lead.toNat + 1) ++ '.' :: ds.drop (lead.toNat + 1)

/-- A double's shortest text that reads back. -/
def Binary64.text (x : Binary64) : List Char :=
  let magnitude :=
    if x.magnitude.significand = 0 then ['0', '.', '0'] else x.magnitude.shortest.text
  if x.negative then '-' :: magnitude else magnitude

end DiagServer.Decimal
