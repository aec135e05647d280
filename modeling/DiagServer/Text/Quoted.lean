import DiagServer.Text.Printable

/-!
# Text between quotes, with everything invisible spelled out

A quoted text is one line whatever the text holds: quotes and backslashes carry a backslash,
NUL, tab, line feed and carriage return have their letters, and any other character that is
unprintable or would join the character before it is written as `\u{…}` with its code point.
-/

namespace DiagServer.Text.Quoted

/-- A code point in lower-case hexadecimal, without leading zeros. -/
def hex (n : Nat) : List Char := Nat.toDigits 16 n

/-- The written form of one character. -/
def escape (c : Char) : List Char :=
  if c = '\x00' then ['\\', '0']
  else if c = '\t' then ['\\', 't']
  else if c = '\r' then ['\\', 'r']
  else if c = '\n' then ['\\', 'n']
  else if c = '\\' ∨ c = '"' then ['\\', c]
  else if isExtender c || !isPrintable c then ['\\', 'u', '{'] ++ hex c.toNat ++ ['}']
  else [c]

/-- A text between double quotes. -/
def quote (s : String) : String :=
  String.ofList ('"' :: (s.toList.flatMap escape ++ ['"']))

end DiagServer.Text.Quoted
