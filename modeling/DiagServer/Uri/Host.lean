import DiagServer.Uri.Address
import DiagServer.Uri.Escape
import DiagServer.Uri.Label

/-!
# Hosts

The host of a URI whose scheme gives hosts a form is an address in brackets, or a name. A name is
read without its escapes, each character in its normal form; it must hold no character that cannot
stand in a name, its labels must be right, and a name that ends in a number must be an address.
-/

namespace DiagServer.Uri

/-- Where a host is. -/
inductive Host where
  | here
  | elsewhere
deriving Repr, DecidableEq

/-- The name of the local host. -/
def localHost : List Char := ['l', 'o', 'c', 'a', 'l', 'h', 'o', 's', 't']

/-- The name that a text stands for, without escapes and in the normal form. -/
def hostName? (text : List Char) : Option (List Char) :=
  match Text.Utf8.decodeChars? (unescape (Text.Utf8.encodeChars text)) with
  | none => none
  | some cs =>
      let name := cs.flatMap hostForm
      if name = [] ∨ name.any isRefusedInHosts then none
      else
        match (name.splitOn '.').mapM label? with
        | none => none
        | some labels => if areRightLabels labels then some name else none

/-- The host that a text names, if it names one. -/
def Host.of? : List Char → Option Host
  | '[' :: cs =>
      if cs.getLast? = some ']' ∧ isLongAddress cs.dropLast then some .elsewhere else none
  | text =>
      match hostName? text with
      | none => none
      | some name =>
          if looksLikeAddress name then if isShortAddress name then some .elsewhere else none
          else if name = localHost then some .here
          else some .elsewhere

end DiagServer.Uri
