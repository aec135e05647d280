import DiagServer.Text.Utf8

/-!
# Names in ASCII

A label of a host name that holds other characters can be written in ASCII: its ASCII characters,
a dash, and letters and digits that tell which other characters stand where. Each of these is
told by how far it is from the one before, in a notation whose digits are worth more or less as
distances tend to be large or small.
-/

namespace DiagServer.Uri.Punycode

/-- The number of digits. -/
def base : Nat := 36

/-- The value of a digit. -/
def digit? (c : Char) : Option Nat :=
  if 'a' ≤ c ∧ c ≤ 'z' then some (c.toNat - 0x61)
  else if c.isDigit then some (c.toNat - 0x30 + 26)
  else none

/-- Read a distance: the distance and the rest. `weight` is what the next digit is worth, `place`
tells how far it is from the first one. -/
def readDistance? (bias : Nat) : Nat → Nat → Nat → List Char → Option (Nat × List Char)
  | _, _, _, [] => none
  | place, weight, sum, c :: cs =>
      match digit? c with
      | none => none
      | some d =>
          let least := min 26 (max 1 (base * (place + 1) - bias))
          let sum := sum + d * weight
          if d < least then some (sum, cs)
          else readDistance? bias (place + 1) (weight * (base - least)) sum cs

/-- Half of what digits may be worth at least, taken away as often as needed. The first argument
bounds how often. -/
def settle : Nat → Nat → Nat → Nat
  | 0, k, delta => k + base * delta / (delta + 38)
  | fuel + 1, k, delta =>
      if 455 < delta then settle fuel (k + base) (delta / (base - 1))
      else k + base * delta / (delta + 38)

/-- The bias behind a distance, which was the first one or not, to a place among so many. -/
def adapt (distance count : Nat) (first : Bool) : Nat :=
  let delta := if first then distance / 700 else distance / 2
  settle 16 0 (delta + delta / count)

/-- The label that digits complete. `code` and `place` tell of the last character. The first
argument bounds the number of characters. -/
def complete? : Nat → Nat → Nat → Nat → List Char → List Char → Option (List Char)
  | 0, _, _, _, _, _ => none
  | _ + 1, _, _, _, label, [] => some label
  | fuel + 1, code, place, bias, label, c :: cs => do
      let (distance, rest) ← readDistance? bias 0 1 0 (c :: cs)
      let count := label.length + 1
      let code := code + (place + distance) / count
      let at_ := (place + distance) % count
      if h : code.isValidChar then
        let label := label.take at_ ++ Char.ofNatAux code h :: label.drop at_
        complete? fuel code (at_ + 1) (adapt distance count (place = 0)) label rest
      else none

/-- The greatest length of a text that is read. -/
def maxLength : Nat := 2000

/-- The label that a text in ASCII stands for. -/
def decode? (cs : List Char) : Option (List Char) :=
  let digits := (cs.reverse.takeWhile (· ≠ '-')).reverse
  let plain := (cs.take (cs.length - digits.length)).dropLast
  if cs.length ≤ maxLength then complete? (digits.length + 1) 0x80 0 72 plain digits else none

end DiagServer.Uri.Punycode
