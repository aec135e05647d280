import DiagServer.Keyed
import DiagServer.Path

/-!
# Files and directories

A file system holds a file or a directory under each of its paths from the root, and a process
stands in one of its directories. A path is followed from part to part: each part but the last
has to be a directory, and so has the last if a slash or a dot comes behind it. Two dots lead to
the directory above, whatever name was taken to get where they stand. A place may be a link, which
stands for another place.
-/

namespace DiagServer

/-- What stands under a path. -/
inductive Entry where
  | file (bytes : List UInt8)
  | directory
deriving Repr, DecidableEq

/-- A file system, as a process sees it that stands in a directory of it. -/
structure FileSystem where
  /-- The components from the root to the directory where the process stands. -/
  current : List (List UInt8) := []
  entries : List (List (List UInt8) × Entry) := []
  /-- The places that are links, and where each of them leads. -/
  links : List (List (List UInt8) × List (List UInt8)) := []
deriving Repr

/-- Why a path was not followed or a file was not read. -/
inductive FileError where
  | notFound
  | notDirectory
  | isDirectory
  | nameTooLong
  | notUtf8
deriving Repr, DecidableEq

/-- The wording of a failure. -/
def FileError.message : FileError → String
  | .notFound => "No such file or directory (os error 2)"
  | .notDirectory => "Not a directory (os error 20)"
  | .isDirectory => "Is a directory (os error 21)"
  | .nameTooLong => "File name too long (os error 36)"
  | .notUtf8 => "stream did not contain valid UTF-8"

namespace FileSystem

/-- The longest path, in bytes. -/
def maxPath : Nat := 4095

/-- The longest name of a file or directory, in bytes. -/
def maxName : Nat := 255

/-- What stands under components from the root. The root is a directory. -/
def entry? (fs : FileSystem) (components : List (List UInt8)) : Option Entry :=
  if components = [] then some .directory else Keyed.find? components fs.entries

/-- Whether components from the root lead to a directory. -/
def isDirectoryAt (fs : FileSystem) (components : List (List UInt8)) : Bool :=
  fs.entry? components = some .directory

/-- Where a place leads: elsewhere if it is a link. -/
def landing (fs : FileSystem) (place : List (List UInt8)) : List (List UInt8) :=
  (Keyed.find? place fs.links).getD place

/-- Follow the parts of a path from the entry under some components; the last part may name
nothing yet. -/
def follow (fs : FileSystem) (place : List (List UInt8)) :
    List (List UInt8) → Except FileError (List (List UInt8))
  | [] => .ok place
  | part :: parts =>
      match fs.entry? place with
      | none => .error .notFound
      | some (.file _) => .error .notDirectory
      | some .directory =>
          if part = [] ∨ part = Path.here then fs.follow place parts
          else if part = Path.up then fs.follow place.dropLast parts
          else if maxName < part.length then .error .nameTooLong
          else fs.follow (fs.landing (place ++ [part])) parts

/-- The components from the root to where a path leads. -/
def resolve (fs : FileSystem) (path : List UInt8) : Except FileError (List (List UInt8)) :=
  if path = [] ∨ path.contains 0 then .error .notFound
  else if maxPath < path.length then .error .nameTooLong
  else fs.follow (if Path.isAbsolute path then [] else fs.current) (Path.split path)

/-- What stands under a path. -/
def lookup (fs : FileSystem) (path : List UInt8) : Except FileError Entry := do
  match fs.entry? (← fs.resolve path) with
  | some e => .ok e
  | none => .error .notFound

/-- Whether a path leads to a file or to a directory. -/
def exists? (fs : FileSystem) (path : List UInt8) : Bool := (fs.lookup path).isOk

/-- The bytes of a file. -/
def read (fs : FileSystem) (path : List UInt8) : Except FileError (List UInt8) := do
  match ← fs.lookup path with
  | .file bytes => .ok bytes
  | .directory => .error .isDirectory

/-- The text of a file. -/
def readText (fs : FileSystem) (path : List UInt8) : Except FileError String := do
  match Text.Utf8.decode? (← fs.read path) with
  | some s => .ok s
  | none => .error .notUtf8

/-- The path from the root for a path of the process. -/
def absolute? (fs : FileSystem) (path : List UInt8) : Option (List UInt8) :=
  Path.absolute? (Path.ofComponents fs.current) path

/-- The front parts of a list, the empty one first and the whole last. -/
def frontParts {α : Type} (xs : List α) : List (List α) :=
  (List.range (xs.length + 1)).map fun n => xs.take n

/-- Put a directory under components from the root, and under each of their front parts, where
nothing stands yet. -/
def addDirectory (fs : FileSystem) (components : List (List UInt8)) : FileSystem :=
  (frontParts components).foldl (fun fs cs =>
    if (fs.entry? cs).isSome then fs
    else { fs with entries := Keyed.put cs .directory fs.entries }) fs

/-- Put a file under components from the root, and directories where they lead through. -/
def addFile (fs : FileSystem) (components : List (List UInt8)) (bytes : List UInt8) :
    FileSystem :=
  let fs := fs.addDirectory components.dropLast
  { fs with entries := Keyed.put components (.file bytes) fs.entries }

/-- Make a directory where there is none; `none` if that cannot be. -/
def makeDirectory (fs : FileSystem) (path : List UInt8) : Option FileSystem :=
  match fs.resolve path with
  | .error _ => none
  | .ok place =>
      match fs.entry? place with
      | some .directory => some fs
      | some (.file _) => none
      | none => if fs.isDirectoryAt place.dropLast then some (fs.addDirectory place) else none

/-- The paths that lead to a path, the shortest first and the path itself last. -/
def leadingTo (path : List UInt8) : List (List UInt8) :=
  ((frontParts (Path.steps path)).drop 1).map fun cs =>
    if Path.isAbsolute path then Path.ofComponents cs else [Path.slash].intercalate cs

/-- Make a directory and those that lead to it, as far as they are missing; the second part tells
whether it is there in the end. -/
def makeDirectories (fs : FileSystem) (path : List UInt8) : FileSystem × Bool :=
  (leadingTo path).foldl (fun (fs, ok) p =>
    if ok then
      match fs.makeDirectory p with
      | some fs => (fs, true)
      | none => (fs, false)
    else (fs, false)) (fs, true)

/-- Open a file to write behind its end, making it if it is missing; `none` if that cannot be. -/
def openToAppend (fs : FileSystem) (path : List UInt8) : Option FileSystem :=
  match fs.resolve path with
  | .error _ => none
  | .ok place =>
      match fs.entry? place with
      | some .directory => none
      | some (.file _) => some fs
      | none => if fs.isDirectoryAt place.dropLast then some (fs.addFile place []) else none

/-- The files in the directory of the process and below, as paths from there. -/
def filesBelow (fs : FileSystem) : List (List UInt8) :=
  fs.entries.filterMap fun (components, e) =>
    match e with
    | .directory => none
    | .file _ =>
        if fs.current.isPrefixOf components then
          some ([Path.slash].intercalate (components.drop fs.current.length))
        else none

end FileSystem

end DiagServer
