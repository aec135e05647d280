import DiagServer.Uri.Scheme

/-!
# The way along a path

The path of a URI is followed from its front. A segment of one dot stays where it is, one of two
dots goes back over a segment, and either leaves a slash at the end. A drive letter is a letter and
a colon; as the first segment of a file's path it may be written with a bar, it takes the place of
a host, and two dots do not go back over it.
-/

namespace DiagServer.Uri

/-- Whether a text is a letter with one of some signs behind it. -/
def isLetterWith (signs : List Char) : List Char → Bool
  | [c, d] => c.isAlpha && signs.contains d
  | _ => false

/-- Whether a text is a drive letter, written with a colon or a bar. -/
def isDriveLetter (cs : List Char) : Bool := isLetterWith [':', '|'] cs

/-- Whether a segment is a dot, plain or escaped. -/
def isDot (s : List Char) : Bool :=
  [".", "%2e"].contains (String.ofList (s.map Char.toLower))

/-- Whether a segment is two dots, each plain or escaped. -/
def isTwoDots (s : List Char) : Bool :=
  ["..", ".%2e", "%2e.", "%2e%2e"].contains (String.ofList (s.map Char.toLower))

/-- How far a path has been followed. -/
structure Trail where
  /-- The path before the current segment, newest character first. -/
  done : List Char
  /-- The current segment, newest character first. -/
  segment : List Char
  /-- Whether a character that is passed over stood behind the segment so far. -/
  broken : Bool
  /-- Whether the path belongs to another host. -/
  hosted : Bool
deriving Repr

namespace Trail

/-- The trail that starts with a path, newest character first. -/
def start (done : List Char) (hosted : Bool) : Trail := ⟨done, [], false, hosted⟩

/-- Whether two dots may take away the slash behind a path, newest character first: not the
first slash, nor one behind a drive letter that stands alone or before a backslash. -/
def isFree (path : List Char) : Bool :=
  let last := (path.takeWhile (· ≠ '/')).reverse
  path.contains '/' && !(isDriveLetter (last.take 2) && (last.drop 2).head?.all (· = '\\'))

/-- A path without its last segment, both newest character first. In a file's path a drive letter
stays. -/
def back (scheme : Scheme) (path : List Char) : List Char :=
  let path :=
    match path with
    | '/' :: before => if isFree before then before else path
    | _ => path
  if scheme = .file ∧ isLetterWith [':'] (path.takeWhile (· ≠ '/')).reverse then path
  else path.dropWhile (· ≠ '/')

/-- A path, newest character first, with a slash at its end. -/
def closed : List Char → List Char
  | '/' :: path => '/' :: path
  | path => '/' :: path

/-- The trail behind the current segment, which a separator ends or nothing does. -/
def endSegment (scheme : Scheme) (separated : Bool) (t : Trail) : Trail :=
  let name := t.segment.reverse
  let behind (path : List Char) : List Char := if separated then '/' :: path else path
  if isTwoDots name then
    let path := back scheme t.done
    start (if separated then closed path else path) t.hosted
  else if isDot name then start (closed t.done) t.hosted
  else if scheme = .file ∧ t.done = ['/'] ∧ isDriveLetter name then
    start (behind (':' :: (name.take 1 ++ t.done))) false
  else start (behind (t.segment ++ t.done)) t.hosted

/-- The trail with one more character in its segment. A drive letter of a file that something
passed over divides from the character is closed by a slash. -/
def push (scheme : Scheme) (c : Char) (t : Trail) : Trail :=
  match t.segment with
  | [':', letter] =>
      if scheme = .file ∧ t.broken ∧ t.done = ['/'] ∧ letter.isAlpha then
        { t with done := letter :: t.done, segment := [c, '/', ':'], broken := false }
      else { t with segment := c :: t.segment, broken := false }
  | segment => { t with segment := c :: segment, broken := false }

/-- Follow a path to its end. -/
def follow (scheme : Scheme) (t : Trail) : List Char → Trail
  | [] => t.endSegment scheme false
  | c :: cs =>
      if separates scheme c then follow scheme (t.endSegment scheme true) cs
      else if endsPath c then t.endSegment scheme false
      else if isBreak c then follow scheme { t with broken := true } cs
      else follow scheme (t.push scheme c) cs

end Trail

end DiagServer.Uri
