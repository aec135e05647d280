import DiagServer.Json.Reader

/-!
# Passing over a value that nobody asks for

A member that a record does not have may hold any value. It is passed over with its brackets on
a list, so it may nest without bound; its texts may hold any escapes and any bytes, and its
numbers any exponent.
-/

namespace DiagServer.Json

/-- A bracket that is open. -/
inductive Opened where
  | list
  | object
deriving Repr, DecidableEq

/-- Pass over the digits of an exponent behind its letter. -/
def skipExponent (bs : List UInt8) : Except Fault (List UInt8) :=
  let bs : List UInt8 :=
    match bs with
    | 0x2B :: bs => bs
    | 0x2D :: bs => bs
    | bs => bs
  match bs with
  | [] => .error (.before .badNumber [])
  | b :: rest =>
      if isDigit b then .ok (rest.dropWhile isDigit) else .error (.before .badNumber rest)

/-- Pass over a fraction behind its point, and the exponent that may follow. -/
def skipFraction (bs : List UInt8) : Except Fault (List UInt8) :=
  match bs.takeWhile isDigit, bs.dropWhile isDigit with
  | [], rest => .error (.after .badNumber rest)
  | _, 0x65 :: rest => skipExponent rest
  | _, 0x45 :: rest => skipExponent rest
  | _, rest => .ok rest

/-- Pass over what may follow the integer digits of a number. -/
def skipAfterWhole : List UInt8 → Except Fault (List UInt8)
  | 0x2E :: rest => skipFraction rest
  | 0x65 :: rest => skipExponent rest
  | 0x45 :: rest => skipExponent rest
  | rest => .ok rest

/-- Pass over a number behind its sign. -/
def skipNumber : List UInt8 → Except Fault (List UInt8)
  | [] => .error (.before .badNumber [])
  | 0x30 :: bs =>
      match bs with
      | b :: rest =>
          if isDigit b then .error (.after .badNumber (b :: rest)) else skipAfterWhole (b :: rest)
      | [] => skipAfterWhole []
  | b :: bs =>
      if isDigit b then skipAfterWhole (bs.dropWhile isDigit)
      else .error (.before .badNumber bs)

/-- Pass over a text behind its opening quote. The code point of an escape is not looked at. -/
def skipText : List UInt8 → Except Fault (List UInt8)
  | [] => .error (.before .eofInText [])
  | 0x22 :: rest => .ok rest
  | 0x5C :: 0x75 :: a :: b :: c :: d :: rest =>
      if (hexValue? a).isSome ∧ (hexValue? b).isSome ∧ (hexValue? c).isSome
          ∧ (hexValue? d).isSome then skipText rest
      else .error (.before .badEscape rest)
  | 0x5C :: 0x75 :: _ => .error (.before .eofInText [])
  | 0x5C :: c :: rest =>
      if c = 0x22 ∨ c = 0x5C ∨ c = 0x2F ∨ c = 0x62 ∨ c = 0x66 ∨ c = 0x6E ∨ c = 0x72 ∨ c = 0x74
      then skipText rest
      else .error (.before .badEscape rest)
  | b :: rest =>
      if b = 0x5C then .error (.before .eofInText [])
      else if b < 0x20 then .error (.before .controlInText (b :: rest))
      else skipText rest

/-- Pass over a name behind its opening quote and the colon that follows it. -/
def skipName (bs : List UInt8) : Except Fault (List UInt8) :=
  match skipText bs with
  | .error f => .error f
  | .ok rest => readColon rest

/-- Pass over the opening quote of a name, the name and the colon that follows it. -/
def skipNextName (bs : List UInt8) : Except Fault (List UInt8) :=
  match skipGap bs with
  | [] => .error (.before .eofInObject [])
  | b :: rest => if b = 0x22 then skipName rest else .error (.before .nameNotText rest)

/-- Behind a value: pass over the brackets that close here, innermost first. The result tells
which brackets are still open at the next value, `none` if there is no next value. -/
def skipClosing : List Opened → List UInt8 → Except Fault (Option (List Opened) × List UInt8)
  | [], bs => .ok (none, bs)
  | .list :: opened, bs =>
      match skipGap bs with
      | [] => .error (.before .eofInList [])
      | b :: rest =>
          if b = 0x2C then .ok (some (.list :: opened), rest)
          else if b = 0x5D then skipClosing opened rest
          else .error (.before .expectedListCommaOrEnd rest)
  | .object :: opened, bs =>
      match skipGap bs with
      | [] => .error (.before .eofInObject [])
      | b :: rest =>
          if b = 0x2C then
            match skipNextName rest with
            | .ok rest => .ok (some (.object :: opened), rest)
            | .error f => .error f
          else if b = 0x7D then skipClosing opened rest
          else .error (.before .expectedObjectCommaOrEnd rest)

/-- Pass over the word at the front that is not an opening bracket. -/
def skipScalar : List UInt8 → Except Fault (List UInt8)
  | [] => .error (.before .eofInValue [])
  | b :: rest =>
      if b = 0x6E then readKeyword wordNull rest
      else if b = 0x74 then readKeyword wordTrue rest
      else if b = 0x66 then readKeyword wordFalse rest
      else if b = 0x2D then skipNumber rest
      else if isDigit b then skipNumber (b :: rest)
      else if b = 0x22 then skipText rest
      else .error (.before .expectedValue rest)

/-- Pass over a scalar, or over an opening bracket and what comes before the first value in it.
The result is as for `skipClosing`. -/
def skipFront (opened : List Opened) (bs : List UInt8) :
    Except Fault (Option (List Opened) × List UInt8) :=
  match skipGap bs with
  | 0x5B :: rest =>
      match skipGap rest with
      | [] => .error (.before .eofInList [])
      | 0x5D :: rest => skipClosing opened rest
      | rest => .ok (some (.list :: opened), rest)
  | 0x7B :: rest =>
      match skipGap rest with
      | [] => .error (.before .eofInObject [])
      | 0x7D :: rest => skipClosing opened rest
      | rest =>
          match skipNextName rest with
          | .ok rest => .ok (some (.object :: opened), rest)
          | .error f => .error f
  | bs =>
      match skipScalar bs with
      | .ok rest => skipClosing opened rest
      | .error f => .error f

/-- Pass over values until no bracket is open. The first argument bounds their number. -/
def skipFrom : Nat → List Opened → List UInt8 → Except Fault (List UInt8)
  | 0, _, bs => .error (.before .eofInValue bs)
  | fuel + 1, opened, bs =>
      match skipFront opened bs with
      | .error f => .error f
      | .ok (none, rest) => .ok rest
      | .ok (some opened, rest) => skipFrom fuel opened rest

/-- Pass over one value. -/
def skipValue (bs : List UInt8) : Except Fault (List UInt8) := skipFrom (bs.length + 1) [] bs

end DiagServer.Json
