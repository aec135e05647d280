import DiagServer.Decimal.Shortest
import DiagServer.Text.Quoted

/-!
# Why a JSON text was refused

A fault is a cause and the place where reading stopped. Readers see only the bytes that are
left, so the place is the number of bytes left; with the whole input at hand it becomes a line,
counted from one, and a column, the number of bytes since the last line feed.
-/

namespace DiagServer.Json

open Decimal

/-- What stood where a value of another type was expected. -/
inductive Found where
  | null
  | bool (b : Bool)
  | int (i : Int)
  | double (x : Binary64)
  | str (s : String)
  | seq
  | map
deriving Repr, DecidableEq

/-- A description of what was found. -/
def Found.describe : Found → String
  | .null => "null"
  | .bool b => if b then "boolean `true`" else "boolean `false`"
  | .int i => "integer `" ++ toString i ++ "`"
  | .double x => "floating point `" ++ String.ofList x.text ++ "`"
  | .str s => "string " ++ Text.Quoted.quote s
  | .seq => "sequence"
  | .map => "map"

/-- Why a text was refused. -/
inductive Cause where
  | eofInList
  | eofInObject
  | eofInText
  | eofInValue
  | expectedColon
  | expectedListCommaOrEnd
  | expectedObjectCommaOrEnd
  | expectedKeyword
  | expectedValue
  | badEscape
  | badNumber
  | numberOutOfRange
  | badCodePoint
  | controlInText
  | nameNotText
  | loneSurrogate
  | unfinishedSurrogatePair
  | trailingComma
  | trailingCharacters
  | tooDeep
  | wrongType (found : Found) (expected : String)
  | outOfRange (value : Int) (expected : String)
  | tooFewItems (count : Nat) (record : String) (fields : Nat)
  | missingField (name : String)
  | repeatedField (name : String)
deriving Repr, DecidableEq

/-- The wording of a cause. -/
def Cause.message : Cause → String
  | .eofInList => "EOF while parsing a list"
  | .eofInObject => "EOF while parsing an object"
  | .eofInText => "EOF while parsing a string"
  | .eofInValue => "EOF while parsing a value"
  | .expectedColon => "expected `:`"
  | .expectedListCommaOrEnd => "expected `,` or `]`"
  | .expectedObjectCommaOrEnd => "expected `,` or `\x7d`"
  | .expectedKeyword => "expected ident"
  | .expectedValue => "expected value"
  | .badEscape => "invalid escape"
  | .badNumber => "invalid number"
  | .numberOutOfRange => "number out of range"
  | .badCodePoint => "invalid unicode code point"
  | .controlInText => "control character (\\u0000-\\u001F) found while parsing a string"
  | .nameNotText => "key must be a string"
  | .loneSurrogate => "lone leading surrogate in hex escape"
  | .unfinishedSurrogatePair => "unexpected end of hex escape"
  | .trailingComma => "trailing comma"
  | .trailingCharacters => "trailing characters"
  | .tooDeep => "recursion limit exceeded"
  | .wrongType found expected =>
      "invalid type: " ++ found.describe ++ ", expected " ++ expected
  | .outOfRange value expected =>
      "invalid value: integer `" ++ toString value ++ "`, expected " ++ expected
  | .tooFewItems count record fields =>
      "invalid length " ++ toString count ++ ", expected struct " ++ record ++ " with "
        ++ toString fields ++ " element" ++ (if fields = 1 then "" else "s")
  | .missingField name => "missing field `" ++ name ++ "`"
  | .repeatedField name => "duplicate field `" ++ name ++ "`"

/-- A cause, and the number of bytes left at the place it refers to. -/
structure Fault where
  cause : Cause
  left : Nat
deriving Repr, DecidableEq

/-- The result of reading from the front of a byte string: a value and what is left. -/
abbrev Read (α : Type) := Except Fault (α × List UInt8)

/-- A fault right before the bytes that are left. -/
def Fault.before (cause : Cause) (rest : List UInt8) : Fault := ⟨cause, rest.length⟩

/-- A fault right after the first of the bytes that are left, if there is one. -/
def Fault.after (cause : Cause) (rest : List UInt8) : Fault := ⟨cause, rest.length - 1⟩

/-- The line and column reached after reading some bytes, from a line and column before. -/
def lineColumn : Nat → Nat → List UInt8 → Nat × Nat
  | line, column, [] => (line, column)
  | line, column, b :: bs =>
      if b = 0x0A then lineColumn (line + 1) 0 bs else lineColumn line (column + 1) bs

/-- The wording of a fault found in an input. -/
def Fault.message (input : List UInt8) (f : Fault) : String :=
  let (line, column) := lineColumn 1 0 (input.take (input.length - f.left))
  f.cause.message ++ " at line " ++ toString line ++ " column " ++ toString column

end DiagServer.Json
