import DiagServer.Text.Utf8

/-!
# File paths

A path is a byte string whose components are separated by slashes; any byte but the slash may
stand in a component. Empty components and components that are a single dot name nothing and
are passed over. Everything here looks at the text of a path only, never at a file system.
-/

namespace DiagServer.Path

/-- The slash. -/
def slash : UInt8 := 0x2F

/-- The dot. -/
def dot : UInt8 := 0x2E

/-- The component that names the directory itself. -/
def here : List UInt8 := [dot]

/-- The component that names the directory above. -/
def up : List UInt8 := [dot, dot]

/-- Whether a path starts at the root. -/
def isAbsolute (path : List UInt8) : Bool := path.head? = some slash

/-- The parts between slashes; `current` holds the bytes of the first part that were read
before, newest first. -/
def splitFrom (current : List UInt8) : List UInt8 → List (List UInt8)
  | [] => [current.reverse]
  | b :: bs =>
      if b = slash then current.reverse :: splitFrom [] bs else splitFrom (b :: current) bs

/-- The parts between slashes. -/
def split (path : List UInt8) : List (List UInt8) := splitFrom [] path

/-- The components of a path, from the root or from the directory that it is relative to. -/
def components (path : List UInt8) : List (List UInt8) :=
  (split path).filter fun c => c ≠ [] ∧ c ≠ here

/-- The last component, if it names a file. -/
def fileName? (path : List UInt8) : Option (List UInt8) :=
  (components path).getLast?.filter (· ≠ up)

/-- What follows the last dot of the last component, unless that dot is its first byte or there
is none; empty then, as it is when it is not UTF-8. -/
def extension (path : List UInt8) : String :=
  match fileName? path with
  | none => ""
  | some name =>
      let after := (name.reverse.takeWhile (· ≠ dot)).reverse
      let stem := name.length - after.length - 1
      if stem = 0 then "" else (Text.Utf8.decode? after).getD ""

/-- A path behind a directory. An absolute path stays as it is. -/
def join (dir path : List UInt8) : List UInt8 :=
  if isAbsolute path then path
  else if dir = [] ∨ dir.getLast? = some slash then dir ++ path
  else dir ++ slash :: path

/-- The path with these components from the root. -/
def ofComponents (cs : List (List UInt8)) : List UInt8 :=
  match cs with
  | [] => [slash]
  | cs => cs.flatMap fun c => slash :: c

/-- A path from the root for one that may be relative to a directory; the empty path has
none. -/
def absolute? (dir path : List UInt8) : Option (List UInt8) :=
  if path = [] then none
  else if isAbsolute path then some (ofComponents (components path))
  else some (ofComponents (components dir ++ components path))

/-- The components of a path, with a dot in front if it starts with one. -/
def steps (path : List UInt8) : List (List UInt8) :=
  if (split path).head? = some here then here :: components path else components path

/-- A path without its last component; `none` for the root and for the empty path. -/
def parent? (path : List UInt8) : Option (List UInt8) :=
  match steps path with
  | [] => none
  | cs =>
      if isAbsolute path then some (ofComponents cs.dropLast)
      else some ([slash].intercalate cs.dropLast)

end DiagServer.Path
