import DiagServer.Json.Basic
import DiagServer.Decimal.Shortest
import DiagServer.Text.Utf8

/-!
# Compact JSON text

A value is written without blanks. A text escapes the quote, the backslash and the controls
below U+0020, five of them by a letter and the others by four hexadecimal digits; every other
character stands for itself.
-/

namespace DiagServer.Json

open Decimal

/-- The written form of one character of a text. -/
def escape (c : Char) : List Char :=
  if c = '"' then ['\\', '"']
  else if c = '\\' then ['\\', '\\']
  else if c = '\x08' then ['\\', 'b']
  else if c = '\x0C' then ['\\', 'f']
  else if c = '\n' then ['\\', 'n']
  else if c = '\r' then ['\\', 'r']
  else if c = '\t' then ['\\', 't']
  else if c.toNat < 0x20 then
    ['\\', 'u', '0', '0', Nat.digitChar (c.toNat / 16), Nat.digitChar (c.toNat % 16)]
  else [c]

/-- A text between quotes. -/
def renderText (s : String) : List Char := '"' :: (s.toList.flatMap escape ++ ['"'])

/-- An integer in decimal. -/
def renderInt (i : Int) : List Char :=
  if i < 0 then '-' :: Nat.toDigits 10 i.natAbs else Nat.toDigits 10 i.natAbs

mutual

/-- A value's text. -/
def render : Json → List Char
  | .null => ['n', 'u', 'l', 'l']
  | .bool true => ['t', 'r', 'u', 'e']
  | .bool false => ['f', 'a', 'l', 's', 'e']
  | .int i => renderInt i
  | .double x => x.text
  | .str s => renderText s
  | .arr items => '[' :: renderItems items
  | .obj members => '{' :: renderMembers members

/-- The items of an array and its closing bracket. -/
def renderItems : List Json → List Char
  | [] => [']']
  | [v] => render v ++ [']']
  | v :: rest => render v ++ ',' :: renderItems rest

/-- The members of an object and its closing brace. -/
def renderMembers : List (String × Json) → List Char
  | [] => ['}']
  | [m] => renderText m.1 ++ ':' :: (render m.2 ++ ['}'])
  | m :: rest => renderText m.1 ++ ':' :: (render m.2 ++ ',' :: renderMembers rest)

end

/-- A value's text as a string. -/
def compact (v : Json) : String := String.ofList (render v)

/-- The bytes of a value's text. -/
def encode (v : Json) : List UInt8 := Text.Utf8.encodeChars (render v)

end DiagServer.Json
