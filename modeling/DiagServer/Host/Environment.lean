import DiagServer.Path

/-!
# Environment variables

The variables that a process was started with. Each is one byte string, a name and a value with
an equals sign between them, and the name looked for is whatever stands before one of its equals
signs: a variable `A` of value `B=C` is also found as `A=B`, with the value `C`. As a text a
value counts only if it is UTF-8.
-/

namespace DiagServer

/-- The environment variables of a process. -/
structure Environment where
  entries : List (String × List UInt8) := []
deriving Repr

namespace Environment

/-- Whether a process can give a variable this name. -/
def canName (name : String) : Bool :=
  name ≠ "" && !name.toList.contains '=' && !name.toList.contains '\x00'

/-- What is behind the bytes at the front of a byte string, if these are there. -/
def behind? (front bs : List UInt8) : Option (List UInt8) :=
  if front.isPrefixOf bs then some (bs.drop front.length) else none

/-- The value of a variable. -/
def bytes? (e : Environment) (name : String) : Option (List UInt8) :=
  if name = "" ∨ name.toList.contains '\x00' then none
  else
    e.entries.findSome? fun (key, value) =>
      behind? (Text.Utf8.encode name ++ [0x3D]) (Text.Utf8.encode key ++ 0x3D :: value)

/-- The value of a variable as a text. -/
def text? (e : Environment) (name : String) : Option String :=
  (e.bytes? name).bind Text.Utf8.decode?

/-- The value of a variable that names a path; an empty value names none. -/
def path? (e : Environment) (name : String) : Option (List UInt8) :=
  (e.bytes? name).filter (· ≠ [])

end Environment

end DiagServer
