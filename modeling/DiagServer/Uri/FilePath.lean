import DiagServer.Path
import DiagServer.Uri.Authority
import DiagServer.Uri.Trail

/-!
# The path that a URI names

A URI of any scheme names a path if it has one from the root and no host other than the local one.
A `file` URI may have less than two slashes before its path, or none; its host is one that follows
two. The schemes of the web allow any number of slashes before the host. All others take the host
as it is written, and have a path only behind a slash.
-/

namespace DiagServer.Uri

/-- The path of a `file` URI without a host that `cs` leads to from the root. -/
def rooted (cs : List Char) : Trail := (Trail.start ['/'] false).follow .file cs

/-- The way along a `file` URI behind its two separators. -/
def behindFileHost? (cs : List Char) : Option Trail :=
  let (host, path) := splitAuthority .file cs
  let host := dropBreaks host
  if isDriveLetter host then some (rooted cs)
  else if host = [] then some (rooted path)
  else
    match Host.of? host with
    | none => none
    | some .here => some (rooted path)
    | some .elsewhere =>
        -- a `?` or `#` behind the host is not followed: it leaves the path empty
        some ((Trail.start ['/'] true).follow .file (dropSeparator .file path))

/-- The way along a `file` URI behind its colon. -/
def fileTrail? (cs : List Char) : Option Trail :=
  match cs.dropWhile isBreak with
  | [] => some (rooted [])
  | a :: rest =>
      if separates .file a then
        match rest.dropWhile isBreak with
        | [] => some ((Trail.start [] false).follow .file (a :: rest))
        | b :: cs =>
            if separates .file b then behindFileHost? cs
            else some ((Trail.start [] false).follow .file (a :: rest))
      else some (rooted (a :: rest))

/-- The path of a `file` URI behind its colon. It has one slash at its front. -/
def filePath? (cs : List Char) : Option (List Char) :=
  match fileTrail? cs with
  | none => none
  | some t => if t.hosted then none else some ('/' :: t.done.reverse.dropWhile (· = '/'))

/-- The path of a URI of another special scheme behind its colon. -/
def specialPath? (cs : List Char) : Option (List Char) :=
  let (authority, path) := splitAuthority .special (cs.dropWhile (separates .special))
  match hereBehind? .special authority with
  | none => none
  | some _ =>
      some ((Trail.start ['/'] false).follow .special (dropSeparator .special path)).done.reverse

/-- The path of a URI of any other scheme behind its colon. -/
def otherPath? : List Char → Option (List Char)
  | '/' :: '/' :: cs =>
      let (authority, path) := splitAuthority .other cs
      match hereBehind? .other authority, path with
      | none, _ => none
      | some [], '/' :: _ => some ((Trail.start [] false).follow .other path).done.reverse
      | some [], _ => none
      | some front, _ => some ((Trail.start ['/'] false).follow .other (front ++ path)).done.reverse
  | '/' :: cs => some ((Trail.start ['/'] false).follow .other cs).done.reverse
  | _ => none

/-- A path that ends with a drive letter names the drive's root, so it ends with a slash. -/
def closeDrive (path : List UInt8) : List UInt8 :=
  match path.reverse with
  | c :: d :: _ :: _ =>
      if (c = 0x3A ∨ c = 0x7C) ∧ (Char.ofNat d.toNat).isAlpha ∧ d < 0x80 then path ++ [Path.slash]
      else path
  | _ => path

/-- The path that a URI names on this machine. -/
def toPath? (uri : List Char) : Option (List UInt8) :=
  match splitScheme? (trim uri) with
  | none => none
  | some (name, rest) =>
      let path? :=
        match Scheme.ofName name with
        | .file => filePath? rest
        | .special => specialPath? (dropBreaks rest)
        | .other => otherPath? (dropBreaks rest)
      path?.map fun path => closeDrive (unescape (Text.Utf8.encodeChars path))

end DiagServer.Uri
