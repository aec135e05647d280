import DiagServer.Uri.Host
import DiagServer.Uri.Scheme

/-!
# Authorities

What stands between two slashes and the path of a URI names a user, a host and a number, of which
only the host must be there. It leaves the path on this machine if its host is the local one; where
the scheme gives hosts no form, that is the name as it is, or nothing at all.
-/

namespace DiagServer.Uri

/-- What an authority holds behind its last at sign, and whether it names a user; `none` if
nothing at all stands beside the sign. -/
def dropUser? (authority : List Char) : Option (List Char × Bool) :=
  if authority.contains '@' then
    let host := (authority.reverse.takeWhile (· ≠ '@')).reverse
    let user := authority.take (authority.length - host.length - 1)
    if user = [] ∧ host = [] then none else some (host, user ≠ [] ∧ user ≠ [':'])
  else some (authority, false)

/-- What the number behind a host is below. -/
def numberBound : Nat := 65536

/-- What follows the digits behind the colon after a host: nothing, or a backslash that begins the
path. The digits, if there are any, stand for a number below the bound. -/
def dropNumber? (cs : List Char) : Option (List Char) :=
  let value := (cs.takeWhile Char.isDigit).foldl
    (fun n c => min (n * 10 + (c.toNat - 0x30)) numberBound) 0
  let rest := cs.dropWhile Char.isDigit
  if value < numberBound ∧ (rest = [] ∨ rest.head? = some '\\') then some rest else none

/-- A host without its user and number. -/
structure HostPart where
  host : List Char
  /-- Whether a colon follows. -/
  numbered : Bool
  /-- What follows the number. -/
  rest : List Char

/-- The host at the front; `none` if something else than a number follows the colon behind it. A
colon within brackets belongs to the host. The flag tells whether a bracket is open, and `host`
holds the characters of the host so far, newest first. -/
def splitHost? (inside : Bool) (host : List Char) : List Char → Option HostPart
  | [] => some ⟨host.reverse, false, []⟩
  | c :: cs =>
      if c = ':' ∧ !inside then (dropNumber? cs).map fun rest => ⟨host.reverse, true, rest⟩
      else
        let inside := if c = '[' then true else if c = ']' then false else inside
        splitHost? inside (c :: host) cs

/-- What an authority that leaves the path on this machine gives to the front of the path. -/
def hereBehind? (scheme : Scheme) (authority : List Char) : Option (List Char) :=
  match dropUser? authority with
  | none => none
  | some (text, user) =>
      match splitHost? false [] text with
      | none => none
      | some part =>
          let isHere :=
            if scheme = .other then
              part.host = localHost || (part.host = [] && !user && !part.numbered)
            else Host.of? part.host = some .here
          if isHere then some part.rest else none

end DiagServer.Uri
