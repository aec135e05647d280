import DiagServer.Posix.Shell.Builtin

/-!
# What a command calls

The first field of a command is a name. A name with a slash is the path of a program. Any other is
looked for among the shell's special commands, the functions, the shell's other commands, and the
programs in the directories that a variable lists, in this order.
-/

namespace DiagServer.Posix.Shell

/-! ## Programs -/

/-- What the search for a program comes to. -/
inductive Found where
  | program (name : String)
  /-- There is something, but it is no program. -/
  | refused
  | missing
deriving DecidableEq

/-- The directories where programs usually stand. -/
def usualDirectories : List Char :=
  "/usr/local/sbin:/usr/local/bin:/usr/sbin:/usr/bin:/sbin:/bin".toList

/-- The name of the variable that lists the directories where programs are looked for. -/
def searchVariable : List Char := "PATH".toList

/-- The paths where a program is looked for, by its name. -/
def candidates (s : State) (usual : Bool) (name : List Char) : List (List Char) :=
  if name.contains '/' then [name]
  else
    let listed := if usual then usualDirectories else (s.value? searchVariable).getD []
    (listed.splitOn ':').map fun directory =>
      if directory = [] then name else directory ++ '/' :: name

/-- Whether there is a file at a path. -/
def isFileAt (fs : FileSystem) (path : List Char) : Bool :=
  fs.lookup (toBytes path) matches .ok (.file _)

/-- Look for a program. -/
def findProgram (fs : FileSystem) (paths : List (List Char)) : Found :=
  match paths.findSome? fun path => programAt? fs (toBytes path) with
  | some name => .program name
  | none =>
      if paths.any fun path => fs.exists? (toBytes path) then .refused else .missing

/-- The status of a command that is no program, and the wording for it. `isPath` tells whether it
was given as a path. -/
def Found.failure (f : Found) (isPath : Bool) : Nat × String :=
  match f with
  | .refused => (if isPath then 126 else 127, "Permission denied")
  | _ => (127, "not found")

/-! ## Commands -/

/-- The commands of the shell that run others or look for them. -/
def runningNames : List String := [".", "command", "eval", "exec", "hash", "type"]

/-- Whether a name is that of a special command. -/
def isSpecialName (name : List Char) : Bool := specialNames.any (·.toList = name)

/-- Whether a name is that of a command of the shell. -/
def isShellName (name : List Char) : Bool :=
  runningNames.any (·.toList = name) || (builtin? name).isSome || (shellUtility? name).isSome

/-- What a command calls. -/
structure Call where
  /-- The name and the arguments. -/
  fields : List (List Char)
  /-- Whether functions are passed over. -/
  direct : Bool := false
  /-- Whether a program is looked for in the usual directories. -/
  usual : Bool := false

/-- What is behind the name `command` and its switches if it is to be called, and whether a program
is to be looked for in the usual directories. -/
def behindCommand? : Bool → List (List Char) → Option (Bool × List (List Char))
  | _, [] => none
  | usual, arg :: args =>
      if arg = ['-', '-'] then (if args = [] then none else some (usual, args))
      else if isSwitches arg then
        if (arg.drop 1).all (· = 'p') then behindCommand? true args else none
      else some (usual, arg :: args)

/-- A call without the names `command` in front of it. The first argument bounds their number. -/
def Call.strip (functions : List (List Char × Command)) : Nat → Call → Call
  | 0, c => c
  | fuel + 1, c =>
      match c.fields with
      | [] => c
      | name :: args =>
          let shadowed := !c.direct && (Keyed.find? name functions).isSome
          if name = "command".toList ∧ ¬ shadowed then
            match behindCommand? c.usual args with
            | some (usual, fields) => strip functions fuel { fields, direct := true, usual }
            | none => c
          else c

/-- What the fields of a command call. -/
def Call.ofFields (s : State) (fields : List (List Char)) : Call :=
  Call.strip s.functions fields.length { fields }

/-- The names of the commands whose arguments set variables. -/
def declaringNames : List String := ["export", "local", "readonly"]

/-- Expand the words of a command behind its first fields. -/
def expandWords (capture : Capture) : List (List Char) → List Word → Run (List (List Char))
  | fields, [] => return fields
  | fields, w :: ws => do
      let name := (Call.ofFields (← get) fields).fields.headD []
      let declares := declaringNames.any (·.toList = name)
      let more ←
        if declares ∧ (assignment? w).isSome then do pure [← expandText capture .inPaths w]
        else expandFields capture w
      expandWords capture (fields ++ more) ws

/-! ## Telling about commands -/

/-- What a name stands for, in words or as a command; `none` if for nothing. -/
def describe? (s : State) (usual wordy : Bool) (name : List Char) : Option (List Char) :=
  let told (what : String) (brief : List Char) : Option (List Char) :=
    some (if wordy then name ++ what.toList else brief)
  if keywords.any (·.toList = name) then told " is a shell keyword" name
  else
    match Keyed.find? name s.aliases with
    | some text =>
        some (if wordy then name ++ " is an alias for ".toList ++ text
          else "alias ".toList ++ name ++ '=' :: quotedText text)
    | none =>
        if isSpecialName name then told " is a special shell builtin" name
        else if (Keyed.find? name s.functions).isSome then told " is a shell function" name
        else if isShellName name then told " is a shell builtin" name
        else
          let fs := s.world.files
          let fine (path : List Char) : Bool :=
            if name.contains '/' then fs.exists? (toBytes path) else isFileAt fs path
          ((candidates s usual name).find? fine).map fun path =>
            let known := !usual && s.found.contains name
            let between := if known then " is a tracked alias for " else " is "
            if wordy then name ++ between.toList ++ path else path

/-- Tell what a name stands for. -/
def tellAbout (usual wordy : Bool) (name : List Char) : Run Nat := do
  match describe? (← get) usual wordy name with
  | some text => say (text ++ ['\n'])
  | none =>
      let _ ← say (if wordy then name ++ ": not found\n".toList else [])
      return 127

/-- Tell what names stand for. -/
def tellTypes : Builtin := fun names =>
  names.foldlM (fun status name => do return max status (← tellAbout false true name)) 0

/-- Keep a program in mind that is looked for by its name. -/
def remember (name : List Char) : Run PUnit :=
  modify fun s =>
    let isNew := !name.contains '/' && !s.found.contains name
    let paths := candidates s false name
    match if isNew then paths.find? (isFileAt s.world.files) else none with
    | some _ => { s with found := s.found ++ [name] }
    | none => s

/-- Tell which programs were found, or look for some. -/
def tellFound : Builtin := fun args => do
  let (given, names) ← optionsOf "rv" "" args
  if isGiven given 'r' then
    modify fun s => { s with found := [] }
    return 0
  if names = [] then
    let s ← get
    let paths := s.found.filterMap fun name =>
      (candidates s false name).find? (isFileAt s.world.files)
    say (paths.flatMap (· ++ ['\n']))
  else
    names.foldlM (fun status name => do
      if isShellName name then return status
      remember name
      if name.contains '/' ∨ (← get).found.contains name then return status
      warn (name ++ ": not found".toList)
      return 1) 0

/-- Tell what a name stands for, in words or as a command. -/
def tellCommand : Builtin := fun args => do
  let (given, names) ← optionsOf "pvV" "" args
  match names with
  | name :: _ =>
      if isGiven given 'V' then tellAbout (isGiven given 'p') true name
      else if isGiven given 'v' then tellAbout (isGiven given 'p') false name
      else return 0
  | [] => return 0

end DiagServer.Posix.Shell
