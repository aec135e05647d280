/-!
# Schemes of URIs

The scheme of a URI tells how the rest is read. For `file` and for the schemes of the web a
backslash is a slash, in front of the path as within it; for every other scheme it is an ordinary
character. Tabs and line ends anywhere and controls and spaces around a URI do not belong to it.
-/

namespace DiagServer.Uri

/-- How a URI is read after its scheme. -/
inductive Scheme where
  | file
  | special
  | other
deriving Repr, DecidableEq

/-- The reading of a scheme in small letters. -/
def Scheme.ofName (name : List Char) : Scheme :=
  let name := String.ofList name
  if name = "file" then .file
  else if ["http", "https", "ws", "wss", "ftp"].contains name then .special
  else .other

/-- Whether a character may stand in a scheme behind its first. -/
def isSchemeChar (c : Char) : Bool := c.isAlphanum || c = '+' || c = '-' || c = '.'

/-- Whether a character is passed over wherever it stands. -/
def isBreak (c : Char) : Bool := c = '\t' || c = '\n' || c = '\r'

/-- A text without the characters that are passed over. -/
def dropBreaks (cs : List Char) : List Char := cs.filter fun c => !isBreak c

/-- A URI without the controls and spaces around it. -/
def trim (cs : List Char) : List Char :=
  let isEdge (c : Char) : Bool := c.toNat ≤ 0x20
  ((cs.dropWhile isEdge).reverse.dropWhile isEdge).reverse

/-- Split off the scheme, in small letters, and the colon behind it. -/
def splitScheme? : List Char → Option (List Char × List Char)
  | [] => none
  | c :: cs =>
      let belongs (d : Char) : Bool := isSchemeChar d || isBreak d
      if c.isAlpha then
        match (c :: cs).dropWhile belongs with
        | ':' :: rest => some ((dropBreaks ((c :: cs).takeWhile belongs)).map Char.toLower, rest)
        | _ => none
      else none

/-- Whether a character separates the segments of a path. -/
def separates (scheme : Scheme) (c : Char) : Bool := c = '/' || (c = '\\' && scheme ≠ .other)

/-- A text without the separator at its front, if it has one. -/
def dropSeparator (scheme : Scheme) : List Char → List Char
  | c :: cs => if separates scheme c then cs else c :: cs
  | [] => []

/-- Whether a character ends the path. -/
def endsPath (c : Char) : Bool := c = '?' || c = '#'

/-- Whether a character ends the part of a URI before the path. -/
def endsAuthority (scheme : Scheme) (c : Char) : Bool := separates scheme c || endsPath c

/-- The authority at the front, and what follows it. -/
def splitAuthority (scheme : Scheme) (cs : List Char) : List Char × List Char :=
  (cs.takeWhile fun c => !endsAuthority scheme c, cs.dropWhile fun c => !endsAuthority scheme c)

end DiagServer.Uri
