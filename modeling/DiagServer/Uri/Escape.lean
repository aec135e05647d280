import DiagServer.Path
import DiagServer.Text.Utf8

/-!
# Escapes in URIs

A byte that a URI gives another meaning stands as a percent sign and two hexadecimal digits. An
absolute path becomes a `file` URI in which such bytes of its components are escaped.
-/

namespace DiagServer.Uri

/-- Whether a byte of a path's component is escaped. -/
def isEscaped (b : UInt8) : Bool :=
  b ≤ 0x20 || 0x7F ≤ b || b == 0x22 || b == 0x23 || b == 0x25 || b == 0x2F || b == 0x3C
    || b == 0x3E || b == 0x3F || b == 0x5C || b == 0x60 || b == 0x7B || b == 0x7D

/-- A hexadecimal digit as a capital. -/
def hexDigit (n : Nat) : Char := (Nat.digitChar n).toUpper

/-- A byte of a component as it stands in a URI. -/
def escapeByte (b : UInt8) : List Char :=
  if isEscaped b then ['%', hexDigit (b.toNat / 16), hexDigit (b.toNat % 16)]
  else [Char.ofNat b.toNat]

/-- The path of a URI for these components. -/
def renderComponents : List (List UInt8) → List Char
  | [] => ['/']
  | cs => cs.flatMap fun c => '/' :: c.flatMap escapeByte

/-- The URI of an absolute path, `none` for a relative one. -/
def ofPath? (path : List UInt8) : Option (List Char) :=
  if Path.isAbsolute path then
    some (['f', 'i', 'l', 'e', ':', '/', '/'] ++ renderComponents (Path.components path))
  else none

/-- The value of a hexadecimal digit. -/
def hexValue? (b : UInt8) : Option UInt8 :=
  if 0x30 ≤ b ∧ b ≤ 0x39 then some (b - 0x30)
  else if 0x41 ≤ b ∧ b ≤ 0x46 then some (b - 0x41 + 10)
  else if 0x61 ≤ b ∧ b ≤ 0x66 then some (b - 0x61 + 10)
  else none

/-- Undo the escapes, newest byte first; a percent sign that starts none stays. -/
def unescapeFrom (done : List UInt8) : List UInt8 → List UInt8
  | 0x25 :: a :: b :: rest =>
      match hexValue? a, hexValue? b with
      | some x, some y => unescapeFrom ((x * 16 + y) :: done) rest
      | _, _ => unescapeFrom (0x25 :: done) (a :: b :: rest)
  | b :: rest => unescapeFrom (b :: done) rest
  | [] => done.reverse

/-- Undo the escapes of a byte string. -/
def unescape (bs : List UInt8) : List UInt8 := unescapeFrom [] bs

end DiagServer.Uri
