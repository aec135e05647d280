import DiagServer.Text.Utf8

/-!
# Numeric addresses

A host may be given as a number. The short form has up to four numbers with points between them,
each decimal, octal or hexadecimal, of which the last fills the bytes that the others leave. The
long form stands in brackets: eight groups of hexadecimal digits with colons between them, of
which one run may be left out, and the last two may be written in the short form.
-/

namespace DiagServer.Uri

/-- The value of a hexadecimal digit. -/
def hexDigitValue? (c : Char) : Option Nat :=
  if c.isDigit then some (c.toNat - 0x30)
  else if 'a' ≤ c ∧ c ≤ 'f' then some (c.toNat - 0x61 + 10)
  else if 'A' ≤ c ∧ c ≤ 'F' then some (c.toNat - 0x41 + 10)
  else none

/-- What a whole address in the short form is below, as a number. -/
def addressBound : Nat := 1 <<< 32

/-- The number with these digits, or the bound of addresses if that is less; `none` if a digit is
not below the base. -/
def numberIn? (base : Nat) (cs : List Char) : Option Nat :=
  cs.foldlM (fun n c => (hexDigitValue? c).bind fun d =>
    if d < base then some (min (base * n + d) addressBound) else none) 0

/-- The value of a number of an address. -/
def addressNumber? : List Char → Option Nat
  | [] => none
  | '0' :: 'x' :: cs | '0' :: 'X' :: cs => numberIn? 16 cs
  | '0' :: c :: cs => numberIn? 8 (c :: cs)
  | cs => numberIn? 10 cs

/-- The parts of a name between its points, without an empty one at its end. -/
def partsOf (cs : List Char) : List (List Char) :=
  let parts := cs.splitOn '.'
  if parts.getLast? = some [] then parts.dropLast else parts

/-- Whether a name counts as an address in the short form, be it a right one or not. -/
def looksLikeAddress (cs : List Char) : Bool :=
  match (partsOf cs).getLast? with
  | some last => (last ≠ [] && last.all Char.isDigit) || (addressNumber? last).isSome
  | none => false

/-- Whether a name is an address in the short form. -/
def isShortAddress (cs : List Char) : Bool :=
  match ((partsOf cs).mapM addressNumber?).map List.reverse with
  | some (last :: others) =>
      others.length ≤ 3 && others.all (· ≤ 255) && last < 1 <<< (8 * (4 - others.length))
  | _ => false

/-- Whether a text is a decimal number of one byte, without zeros in front. -/
def isByteNumber (cs : List Char) : Bool :=
  cs ≠ [] && (cs.length = 1 || cs.head? ≠ some '0') && cs.all Char.isDigit
    && (numberIn? 10 cs).all (· ≤ 255)

/-- Whether a text is the short form that may end an address in the long form. -/
def isDottedEnd (cs : List Char) : Bool :=
  let parts := cs.splitOn '.'
  parts.length = 4 && parts.all isByteNumber

/-- Whether a text completes an address in the long form. `count` groups came before it, and `gap`
tells whether a run was left out. The first argument bounds the number of groups. -/
def completesAddress : Nat → Nat → Bool → List Char → Bool
  | _, count, gap, [] => gap || count = 8
  | 0, _, _, _ => false
  | fuel + 1, count, gap, c :: cs =>
      if count = 8 then false
      else if c = ':' then !gap && completesAddress fuel (count + 1) true cs
      else
        let group := ((c :: cs).take 4).takeWhile fun d => (hexDigitValue? d).isSome
        match (c :: cs).drop group.length with
        | [] => completesAddress fuel (count + 1) gap []
        | '.' :: _ =>
            group ≠ [] && isDottedEnd (c :: cs) && (count = 6 || (gap && count < 6))
        | ':' :: rest => rest ≠ [] && completesAddress fuel (count + 1) gap rest
        | _ => false

/-- Whether a text is an address in the long form. -/
def isLongAddress : List Char → Bool
  | ':' :: ':' :: cs => completesAddress (cs.length + 1) 1 true cs
  | ':' :: _ => false
  | cs => 2 ≤ cs.length && completesAddress (cs.length + 1) 0 false cs

end DiagServer.Uri
