import DiagServer.Posix.Shell.Expand

/-!
# Leading descriptors elsewhere

The targets of all redirections of a command are expanded before the first of them is made. One
that cannot be made is complained about, and the command is not run.
-/

namespace DiagServer.Posix.Shell

/-- A redirection whose target was expanded. -/
abbrev Redirected := Redirection (List Char)

/-- Expand the targets of redirections. -/
def expandTargets (capture : Capture) (rs : List (Redirection Word)) : Run (List Redirected) :=
  rs.mapM fun r => do
    match r.direction with
    | .here index =>
        let w := ((← get).documents[index]?).getD []
        return ⟨r.descriptor, r.direction, ← expandText capture .never w⟩
    | .duplicate =>
        let target ← expandText capture .atStart r.target
        let fine := target = ['-'] || (target.length = 1 && target.all Char.isDigit)
        if ¬ fine then fail "Syntax error: Bad fd number".toList
        return ⟨r.descriptor, r.direction, target⟩
    | direction => return ⟨r.descriptor, direction, ← expandText capture .atStart r.target⟩

/-- The descriptor that a path is another name for. -/
def namedDescriptor? (path : List Char) : Option Nat :=
  let under (directory : String) : Option Nat :=
    if directory.toList.isPrefixOf path then number? (path.drop directory.length) else none
  if path = "/dev/stdin".toList then some 0
  else if path = "/dev/stdout".toList then some 1
  else if path = "/dev/stderr".toList then some 2
  else under "/dev/fd/" <|> under "/proc/self/fd/"

/-- Why a file cannot be opened. -/
def openFault (creating : Bool) : FileError → String
  | .notFound | .notDirectory => if creating then "Directory nonexistent" else "No such file"
  | .isDirectory => "Is a directory"
  | .nameTooLong => "File name too long"
  | .notUtf8 => "Invalid argument"

/-- Open a file to read it. -/
def openFile (s : State) (path : List UInt8) : Except FileError Channel := do
  let place ← s.world.files.resolve path
  match s.world.files.entry? place with
  | some (.file _) => return State.channelOf place 0 false
  | some .directory => return .device {}
  | none => throw .notFound

/-- Make a file if it is missing, and empty it if that is asked for: the files then, and its
place. -/
def createFile (s : State) (path : List UInt8) (empty : Bool) :
    Except FileError (FileSystem × List (List UInt8)) := do
  let fs := s.world.files
  let place ← fs.resolve path
  match fs.entry? place with
  | some .directory => throw .isDirectory
  | some (.file _) =>
      let kept := !empty || place == nullDevice || place == zeroDevice
      return (if kept then fs else fs.addFile place [], place)
  | none =>
      if fs.isDirectoryAt place.dropLast then return (fs.addFile place [], place)
      else throw .notFound

/-- Make a redirection; the outcome tells why that cannot be done. -/
def makeOne (s : State) (r : Redirected) : Except (List Char) State := do
  let path := toBytes r.target
  let refused (verb : String) (what : String) : List Char :=
    ("cannot " ++ verb ++ " ").toList ++ r.target ++ ": ".toList ++ what.toList
  let lead (descriptor : Nat) : Except (List Char) State :=
    match s.place? descriptor with
    | some place => .ok (s.lead r.descriptor place)
    | none => .error (Nat.toDigits 10 descriptor ++ ": Bad file descriptor".toList)
  let create (empty atEnd : Bool) : Except (List Char) State :=
    match createFile s path empty with
    | .ok (files, place) =>
        .ok ({ s with world := { s.world with files } }.connect r.descriptor
          (State.channelOf place 0 atEnd))
    | .error e => .error (refused "create" (openFault true e))
  match r.direction with
  | .here _ => return s.connect r.descriptor (.pipe { text := r.target } [])
  | .duplicate =>
      if r.target = ['-'] then
        return s.lead r.descriptor none
      else lead ((number? r.target).getD 0)
  | direction =>
      match namedDescriptor? r.target, direction with
      | some descriptor, _ => lead descriptor
      | none, .input =>
          match openFile s path with
          | .ok c => return s.connect r.descriptor c
          | .error e => throw (refused "open" (openFault false e))
      | none, .append => create false true
      | none, .both => create false false
      | none, direction =>
          if direction ≠ .output true ∧ s.has 'C' ∧ (openFile s path matches .ok (.file ..)) then
            throw (refused "create" "File exists")
          create true false

/-- Make redirections one after the other; the result tells whether all could be made. -/
def redirect : List Redirected → Run Bool
  | [] => return true
  | r :: rs => do
      match makeOne (← get) r with
      | .ok s =>
          set s
          redirect rs
      | .error what =>
          warn what
          return false

/-- Run a step with the targets of redirections; behind it the descriptors lead where they led. -/
def withRedirections {α : Type} (rs : List Redirected) (step : Run α) : Run α :=
  tidily step fun before s =>
    rs.foldl (fun s r => s.lead r.descriptor (before.place? r.descriptor)) s

end DiagServer.Posix.Shell
