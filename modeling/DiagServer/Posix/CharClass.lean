import DiagServer.Posix.Number

/-!
# Classes of characters

A class has a name and holds the characters that it tells. No character beyond ASCII is in one.
-/

namespace DiagServer.Posix

/-- A class of characters. -/
inductive CharClass where
  | alnum | alpha | blank | cntrl | digit | graph | lower | print | punct | space | upper | xdigit
deriving Repr, DecidableEq

namespace CharClass

/-- The classes by name. -/
def named : List (String × CharClass) :=
  [("alnum", alnum), ("alpha", alpha), ("blank", blank), ("cntrl", cntrl), ("digit", digit),
    ("graph", graph), ("lower", lower), ("print", print), ("punct", punct), ("space", space),
    ("upper", upper), ("xdigit", xdigit)]

/-- The class with a name. -/
def ofName? (name : List Char) : Option CharClass :=
  (named.find? (·.1.toList = name)).map Prod.snd

/-- Whether a character belongs to a class. -/
def has (k : CharClass) (c : Char) : Bool :=
  let graphic := '!' ≤ c && c ≤ '~'
  match k with
  | alnum => c.isAlphanum
  | alpha => c.isAlpha
  | blank => c = ' ' || c = '\t'
  | cntrl => c < ' ' || c = '\x7F'
  | digit => c.isDigit
  | graph => graphic
  | lower => c.isLower
  | print => graphic || c = ' '
  | punct => graphic && !c.isAlphanum
  | space => isSpace c
  | upper => c.isUpper
  | xdigit => isDigitIn 16 c

end CharClass

/-- All characters. -/
def alphabet : List Char := (List.range 256).map Char.ofNat

/-- The characters of a class, in order. -/
def CharClass.chars (k : CharClass) : List Char := alphabet.filter k.has

end DiagServer.Posix
