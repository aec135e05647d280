import DiagServer.Json.Fault
import DiagServer.Text.Utf8

/-!
# The words of JSON: blanks, keywords, numbers and texts

Each reader takes bytes from the front and hands on the rest. A number is an integer as long as
it is written as one and fits 64 bits, signed below zero and unsigned above; any other number is
a double. Its digits are taken into a 64-bit significand until one does not fit; the digits
after that only count towards the power of ten, or not at all behind the point.
-/

namespace DiagServer.Json

open Decimal

/-- Whether a byte is one of the four blanks between words. -/
def isGap (b : UInt8) : Bool := b = 0x20 || b = 0x0A || b = 0x09 || b = 0x0D

/-- What is left behind the blanks at the front. -/
def skipGap (bs : List UInt8) : List UInt8 := bs.dropWhile isGap

/-- Whether a byte is a decimal digit. -/
def isDigit (b : UInt8) : Bool := 0x30 ≤ b && b ≤ 0x39

/-- The value of a decimal digit. -/
def digitValue (b : UInt8) : Nat := b.toNat - 0x30

/-- Read the rest of a keyword. -/
def readKeyword : List UInt8 → List UInt8 → Except Fault (List UInt8)
  | [], bs => .ok bs
  | _ :: _, [] => .error (.before .eofInValue [])
  | w :: ws, b :: bs =>
      if b = w then readKeyword ws bs else .error (.before .expectedKeyword bs)

/-! ## Numbers -/

/-- A number as it is read. -/
inductive Number where
  | int (i : Int)
  | double (x : Binary64)
deriving Repr, DecidableEq

/-- The largest significand, and the largest integer. -/
def maxUnsigned : Nat := UInt64.size - 1

/-- Take integer digits into a significand; from the first that does not fit, only count. -/
def takeWhole : Nat → Nat → List UInt8 → Nat × Nat
  | value, dropped, [] => (value, dropped)
  | value, 0, d :: ds =>
      let next := value * 10 + digitValue d
      if next ≤ maxUnsigned then takeWhole next 0 ds else takeWhole value 1 ds
  | value, dropped + 1, _ :: ds => takeWhole value (dropped + 2) ds

/-- Take digits behind the point into a significand and count them, up to the first that does
not fit. -/
def takeFraction : Nat → Nat → List UInt8 → Nat × Nat
  | value, taken, [] => (value, taken)
  | value, taken, d :: ds =>
      let next := value * 10 + digitValue d
      if next ≤ maxUnsigned then takeFraction next (taken + 1) ds else (value, taken)

/-- The double with this sign, significand and power of ten. -/
def makeDouble (negative : Bool) (significand : Nat) (exponent : Int) (rest : List UInt8) :
    Read Number :=
  match Magnitude.ofDecimal? significand exponent with
  | some m => .ok (.double ⟨negative, m⟩, rest)
  | none => .error (.before .numberOutOfRange rest)

/-- The largest exponent that is taken as it is written. -/
def maxExponent : Nat := 0x7FFFFFFF

/-- Read the digits of an exponent. One beyond `maxExponent` is an error where the number would
be too large and gives zero where it would be too small. -/
def readExponentDigits (negative : Bool) (significand : Nat) (scale : Int) (down : Bool) :
    Nat → List UInt8 → Read Number
  | e, b :: bs =>
      if isDigit b then
        let next := e * 10 + digitValue b
        if next ≤ maxExponent then
          readExponentDigits negative significand scale down next bs
        else if significand ≠ 0 ∧ !down then .error (.before .numberOutOfRange bs)
        else .ok (.double ⟨negative, ⟨0, -1074⟩⟩, bs.dropWhile isDigit)
      else makeDouble negative significand (if down then scale - e else scale + e) (b :: bs)
  | e, [] => makeDouble negative significand (if down then scale - e else scale + e) []

/-- Read an exponent behind its letter: a sign or none, then at least one digit. -/
def readExponent (negative : Bool) (significand : Nat) (scale : Int) (bs : List UInt8) :
    Read Number :=
  let (down, bs) : Bool × List UInt8 :=
    match bs with
    | 0x2B :: bs => (false, bs)
    | 0x2D :: bs => (true, bs)
    | bs => (false, bs)
  match bs with
  | [] => .error (.before .eofInValue [])
  | b :: bs =>
      if isDigit b then readExponentDigits negative significand scale down (digitValue b) bs
      else .error (.before .badNumber bs)

/-- Read a fraction behind its point: at least one digit, then an exponent or none. -/
def readFraction (negative : Bool) (significand : Nat) (dropped : Nat) (bs : List UInt8) :
    Read Number :=
  match bs.takeWhile isDigit, bs.dropWhile isDigit with
  | [], [] => .error (.after .eofInValue [])
  | [], b :: rest => .error (.after .badNumber (b :: rest))
  | ds, rest =>
      let (value, taken) := takeFraction significand 0 ds
      let scale : Int := dropped - taken
      match rest with
      | 0x65 :: rest => readExponent negative value scale rest
      | 0x45 :: rest => readExponent negative value scale rest
      | rest => makeDouble negative value scale rest

/-- The least integer. -/
def minSigned : Int := -0x8000000000000000

/-- A number without point and exponent. Zero with a sign is a double, as is an integer that
does not fit. -/
def makeWhole (negative : Bool) (value dropped : Nat) (rest : List UInt8) : Read Number :=
  if dropped ≠ 0 then makeDouble negative value dropped rest
  else if !negative then .ok (.int value, rest)
  else if value = 0 ∨ -(value : Int) < minSigned then makeDouble true value 0 rest
  else .ok (.int (-value), rest)

/-- Read what follows the integer digits of a number. -/
def readAfterWhole (negative : Bool) (value dropped : Nat) : List UInt8 → Read Number
  | 0x2E :: rest => readFraction negative value dropped rest
  | 0x65 :: rest => readExponent negative value dropped rest
  | 0x45 :: rest => readExponent negative value dropped rest
  | rest => makeWhole negative value dropped rest

/-- Read a number behind its sign. No other digit follows a leading zero. -/
def readNumber (negative : Bool) : List UInt8 → Read Number
  | [] => .error (.before .eofInValue [])
  | 0x30 :: bs =>
      match bs with
      | b :: rest =>
          if isDigit b then .error (.after .badNumber (b :: rest))
          else readAfterWhole negative 0 0 (b :: rest)
      | [] => readAfterWhole negative 0 0 []
  | b :: bs =>
      if isDigit b then
        let (value, dropped) := takeWhole (digitValue b) 0 (bs.takeWhile isDigit)
        readAfterWhole negative value dropped (bs.dropWhile isDigit)
      else .error (.before .badNumber bs)

/-! ## Texts -/

/-- The value of a hexadecimal digit. -/
def hexValue? (b : UInt8) : Option Nat :=
  if isDigit b then some (digitValue b)
  else if 0x41 ≤ b ∧ b ≤ 0x46 then some (b.toNat - 0x41 + 10)
  else if 0x61 ≤ b ∧ b ≤ 0x66 then some (b.toNat - 0x61 + 10)
  else none

/-- Read four hexadecimal digits. -/
def readHex4 : List UInt8 → Read Nat
  | a :: b :: c :: d :: rest =>
      match hexValue? a, hexValue? b, hexValue? c, hexValue? d with
      | some a, some b, some c, some d => .ok (((a * 16 + b) * 16 + c) * 16 + d, rest)
      | _, _, _, _ => .error (.before .badEscape rest)
  | _ => .error (.before .eofInText [])

/-- Read the second half of a surrogate pair behind its first half `high`. -/
def readLowSurrogate (high : Nat) : List UInt8 → Except Fault (Char × List UInt8)
  | [] => .error (.before .eofInText [])
  | 0x5C :: [] => .error (.before .eofInText [])
  | 0x5C :: 0x75 :: bs => do
      let (low, rest) ← readHex4 bs
      if low < 0xDC00 ∨ 0xDFFF < low then .error (.before .loneSurrogate rest)
      else .ok (Char.ofNat (0x10000 + (high - 0xD800) * 0x400 + (low - 0xDC00)), rest)
  | 0x5C :: _ :: bs => .error (.before .unfinishedSurrogatePair bs)
  | _ :: bs => .error (.before .unfinishedSurrogatePair bs)

/-- Read an escape behind its backslash. -/
def readEscape : List UInt8 → Except Fault (Char × List UInt8)
  | [] => .error (.before .eofInText [])
  | 0x22 :: rest => .ok ('"', rest)
  | 0x5C :: rest => .ok ('\\', rest)
  | 0x2F :: rest => .ok ('/', rest)
  | 0x62 :: rest => .ok ('\x08', rest)
  | 0x66 :: rest => .ok ('\x0C', rest)
  | 0x6E :: rest => .ok ('\n', rest)
  | 0x72 :: rest => .ok ('\r', rest)
  | 0x74 :: rest => .ok ('\t', rest)
  | 0x75 :: bs => do
      let (n, rest) ← readHex4 bs
      if 0xDC00 ≤ n ∧ n ≤ 0xDFFF then .error (.before .loneSurrogate rest)
      else if n < 0xD800 ∨ 0xDBFF < n then .ok (Char.ofNat n, rest)
      else readLowSurrogate n rest
  | _ :: rest => .error (.before .badEscape rest)

/-- Four digits are four bytes. -/
theorem length_of_readHex4 {bs rest : List UInt8} {n : Nat} (h : readHex4 bs = .ok (n, rest)) :
    rest.length + 4 = bs.length := by
  unfold readHex4 at h
  split at h
  · split at h
    · simp only [Except.ok.injEq, Prod.mk.injEq] at h
      obtain ⟨-, rfl⟩ := h
      simp
    · simp at h
  · simp at h

/-- The second half of a pair takes bytes from the front only. -/
theorem length_of_readLowSurrogate {high : Nat} {bs rest : List UInt8} {c : Char}
    (h : readLowSurrogate high bs = .ok (c, rest)) : rest.length < bs.length := by
  unfold readLowSurrogate at h
  split at h <;> try simp at h
  rename_i bs
  cases hx : readHex4 bs with
  | error f => simp [hx, bind, Except.bind] at h
  | ok r =>
      obtain ⟨low, left⟩ := r
      have := length_of_readHex4 hx
      simp only [hx, bind, Except.bind] at h
      split at h
      · simp at h
      · simp only [Except.ok.injEq, Prod.mk.injEq] at h
        obtain ⟨-, rfl⟩ := h
        simp only [List.length_cons]
        omega

/-- An escape takes at least one byte. -/
theorem length_of_readEscape {bs rest : List UInt8} {c : Char}
    (h : readEscape bs = .ok (c, rest)) : rest.length < bs.length := by
  unfold readEscape at h
  split at h
  case h_10 bs =>
    cases hx : readHex4 bs with
    | error f => simp [hx, bind, Except.bind] at h
    | ok r =>
        obtain ⟨n, left⟩ := r
        have := length_of_readHex4 hx
        simp only [hx, bind, Except.bind] at h
        split at h
        · simp at h
        · split at h
          · simp only [Except.ok.injEq, Prod.mk.injEq] at h
            obtain ⟨-, rfl⟩ := h
            simp only [List.length_cons]
            omega
          · have := length_of_readLowSurrogate h
            simp only [List.length_cons]
            omega
  all_goals
    first
    | (simp at h; done)
    | (simp only [Except.ok.injEq, Prod.mk.injEq] at h
       obtain ⟨-, rfl⟩ := h
       simp)

/-- The number of bytes before the first that does not fit into a UTF-8 text. -/
def flawIndex (bs : List UInt8) : Nat := ((Text.Utf8.firstFlaw? bs).map (·.index)).getD 0

/-- Read a text behind its opening quote. `seen` holds the bytes of the text so far, newest
first. The bytes must be UTF-8, which is looked at last; the place of that fault is as many bytes
before the end of the text as it has bytes from the first that does not fit on. -/
def readTextFrom (seen : List UInt8) (bs : List UInt8) : Read String :=
  match bs with
  | [] => .error (.before .eofInText [])
  | b :: rest =>
      if b = 0x22 then
        match Text.Utf8.decode? seen.reverse with
        | some s => .ok (s, rest)
        | none => .error ⟨.badCodePoint, rest.length + (seen.length - flawIndex seen.reverse)⟩
      else if b = 0x5C then
        match _h : readEscape rest with
        | .ok (c, rest') => readTextFrom ((String.utf8EncodeChar c).reverse ++ seen) rest'
        | .error f => .error f
      else if b < 0x20 then .error (.before .controlInText rest)
      else readTextFrom (b :: seen) rest
termination_by bs.length
decreasing_by
  · have := length_of_readEscape _h
    simp only [List.length_cons]
    omega
  · simp

/-- Read a text behind its opening quote. -/
def readText (bs : List UInt8) : Read String := readTextFrom [] bs

end DiagServer.Json
