import DiagServer.Posix.Catalog
import DiagServer.Posix.Shell.Expand
import DiagServer.Posix.Shell.Reader

/-!
# The commands of the shell

These commands work on the shell itself. Each takes its arguments and gives a status. Those that
run other commands are not among them.
-/

namespace DiagServer.Posix.Shell

/-- A command of the shell that runs no others. -/
abbrev Builtin := List (List Char) → Run Nat

/-- Print a text; the status tells whether that could be done. -/
def say (text : List Char) : Run Nat := do
  match (← get).write? 1 { text } with
  | some s =>
      set s
      return 0
  | none =>
      if text = [] then return 0
      warn ((← get).command.getD [] ++ ": I/O error".toList)
      return 1

/-- Read the options of a command: letters, of which some take a value. -/
def optionsOf (letters valued : String) (args : List (List Char)) :
    Run (List Given × List (List Char)) := do
  let known := letters.toList.map (⟨·, "", false⟩ : Char → Switch)
    ++ valued.toList.map (⟨·, "", true⟩ : Char → Switch)
  match readSwitches known false args with
  | some found => return found
  | none =>
      let given := (args.filter isSwitches).flatMap (·.drop 1)
      match given.find? fun c => known.all (·.letter ≠ c) with
      | some c => fail ("Illegal option -".toList ++ [c])
      | none =>
          fail ("No arg for -".toList ++ given.getLast?.toList ++ " option".toList)

/-- A text in single quotes, in which single quotes stand in double ones. The first argument bounds
the number of steps. -/
def quotedRuns : Nat → List Char → List Char
  | 0, _ => []
  | fuel + 1, cs =>
      let plain := cs.takeWhile (· ≠ '\'')
      let quotes := (cs.drop plain.length).takeWhile (· = '\'')
      let behind := cs.drop (plain.length + quotes.length)
      '\'' :: (plain ++ ['\''])
        ++ (if quotes = [] then [] else '"' :: (quotes ++ ['"']))
        ++ (if behind = [] then [] else quotedRuns fuel behind)

/-- A text in quotes, as it is shown. -/
def quotedText (cs : List Char) : List Char := quotedRuns (cs.length + 1) cs

/-! ## Variables -/

/-- Lines about variables, in the order of their names. -/
def shownVariables (s : State) (front : List Char) (kept : Variable → Bool) : List Char :=
  let named := (s.bindings.filter fun (_, v) => kept v).mergeSort fun a b => comesBefore a.1 b.1
  named.flatMap fun (name, v) =>
    let value := match v.value with
      | some value => '=' :: quotedText value
      | none => []
    front ++ name ++ value ++ ['\n']

/-- The name and the value in an argument that sets a variable. -/
def splitAssignment (arg : List Char) : List Char × Option (List Char) :=
  let name := arg.takeWhile (· ≠ '=')
  (name, (arg.drop name.length).tail?)

/-- Mark variables, and set those that come with a value. -/
def marking (name : String) (mark : Variable → Variable) (kept : Variable → Bool) : Builtin :=
  fun args => do
    let (given, names) ← optionsOf "p" "" args
    if isGiven given 'p' ∨ names = [] then
      say (shownVariables (← get) (name.toList ++ [' ']) kept)
    else
      for arg in names do
        match splitAssignment arg with
        | (name, some value) =>
            assign name value
            change name mark
        | (name, none) =>
            if ¬ isName name then failOn name "bad variable name"
            modify fun s => s.setVariable name (mark (s.variableOf name))
      return 0

/-- Pass variables on. -/
def exportVariables : Builtin :=
  marking "export" (fun v => { v with exported := true }) (·.exported)

/-- Close variables to changes. -/
def closeVariables : Builtin :=
  marking "readonly" (fun v => { v with readOnly := true }) (·.readOnly)

/-- Forget variables or functions. -/
def unsetNames : Builtin := fun args => do
  let (given, names) ← optionsOf "vf" "" args
  let functions := (given.getLast?.map Prod.fst) = some 'f'
  for name in names do
    if functions then
      modify fun s => { s with functions := Keyed.erase name s.functions }
    else forget name
  return 0

/-- Keep variables for a function. -/
def localVariables : Builtin := fun args => do
  if (← get).saved = [] then fail "not in a function".toList
  for arg in args do
    let (name, value) := splitAssignment arg
    if ¬ isName name then failOn name "bad variable name"
    saveVariable name
    match value with
    | some value => assign name value
    | none => pure ()
  return 0

/-! ## Options and arguments -/

/-- The options by their long names. -/
def optionNames : List (String × Char) :=
  [("errexit", 'e'), ("noglob", 'f'), ("ignoreeof", 'I'), ("interactive", 'i'), ("monitor", 'm'),
    ("noexec", 'n'), ("stdin", 's'), ("xtrace", 'x'), ("verbose", 'v'), ("vi", 'V'), ("emacs", 'E'),
    ("noclobber", 'C'), ("allexport", 'a'), ("notify", 'b'), ("nounset", 'u')]

/-- Set an option or take it back. -/
def setOption (on : Bool) (letter : Char) : Run PUnit := do
  if optionNames.all (·.2 ≠ letter) then fail ("Illegal option -".toList ++ [letter])
  if on ∧ letter = 'm' then warn "can't access tty; job control turned off".toList
  let on := on && letter ≠ 'm'
  modify fun s =>
    let options := s.options.filter (· ≠ letter)
    { s with options := if on then letter :: options else options }

/-- The settings of the options, as they are shown. -/
def shownOptions (s : State) (asCommands : Bool) : List Char :=
  let line (name : String) (on : Bool) : List Char :=
    if asCommands then (if on then "set -o " else "set +o ").toList ++ name.toList ++ ['\n']
    else name.toList ++ List.replicate (16 - name.length) ' '
      ++ (if on then "on\n" else "off\n").toList
  (if asCommands then [] else "Current option settings\n".toList)
    ++ optionNames.flatMap fun (name, letter) => line name (s.has letter)

/-- Set the options in letters; the result tells whether one is to follow by its name. -/
def setLetters (on : Bool) : List Char → Run Bool
  | [] => return false
  | c :: cs => do
      if c = 'o' then
        let _ ← setLetters on cs
        return true
      setOption on c
      setLetters on cs

/-- Set the option of a long name or take it back. -/
def setNamed (on : Bool) (name : List Char) : Run PUnit := do
  match optionNames.find? (·.1.toList = name) with
  | some (_, letter) => setOption on letter
  | none => fail ("Illegal option -o ".toList ++ name)

/-- Print the settings of the options. -/
def showOptions (asCommands : Bool) : Run PUnit := do
  let _ ← say (shownOptions (← get) asCommands)

/-- Set the options at the front of arguments. The result holds the arguments behind them, and
whether these are meant to be arguments even if there are none. -/
def setOptions : List (List Char) → Run (List (List Char) × Bool)
  | [] => return ([], false)
  | arg :: args => do
      if arg = ['-'] then
        modify fun s => { s with options := s.options.filter fun c => c ≠ 'x' && c ≠ 'v' }
        return (args, false)
      else if arg = ['-', '-'] then return (args, true)
      else
        match arg with
        | sign :: letters =>
            if sign = '-' ∨ sign = '+' then
              if ← setLetters (sign = '-') letters then
                match args with
                | [] =>
                    showOptions (sign = '+')
                    return ([], false)
                | name :: args =>
                    setNamed (sign = '-') name
                    setOptions args
              else setOptions args
            else return (arg :: args, false)
        | [] => return (arg :: args, false)

/-- Set options and arguments. -/
def setShell : Builtin := fun args => do
  if args = [] then say (shownVariables (← get) [] (·.value.isSome))
  else
    let (args, meant) ← setOptions args
    if meant ∨ args ≠ [] then
      modify fun s => { s with args, optionIndex := 1, optionOffset := 0 }
    return 0

/-- Drop arguments. -/
def shift : Builtin := fun args => do
  let count ← match args with
    | [] => pure 1
    | arg :: _ => numberOf arg
  let s ← get
  if s.args.length < count then fail "can't shift that many".toList
  set { s with args := s.args.drop count, optionIndex := 1, optionOffset := 0 }
  return 0

/-- Read the next option of the arguments. -/
def getOption (known name : List Char) (args : List (List Char)) : Run Nat := do
  let s ← get
  let index := s.optionIndex
  let current := ((args[index - 2]?).filter fun _ => 2 ≤ index).getD []
  let inside := if s.optionOffset = 0 then [] else current.drop s.optionOffset
  let silent := known.head? = some ':'
  let finish (status index offset : Nat) (c : Char) : Run Nat := do
    assign "OPTIND".toList (Nat.toDigits 10 index)
    assign name [c]
    modify fun s => { s with optionIndex := index, optionOffset := offset }
    return status
  let (text, index, offset) :=
    if inside ≠ [] then (inside, index, s.optionOffset)
    else
      match args[index - 1]? with
      | some ('-' :: c :: cs) => (c :: cs, index + 1, 1)
      | _ => ([], index, 0)
  match text with
  | [] => finish 1 index 0 '?'
  | c :: rest =>
      let onward := if rest = [] then 0 else offset + 1
      if offset = 1 ∧ text = ['-'] then finish 1 index 0 '?'
      else
        let found := (known.drop (if silent then 1 else 0)).dropWhile (· ≠ c)
        let complain (what : String) (behind : String) : Run PUnit := do
          modify fun s => s.write 2 (what.toList ++ [c] ++ behind.toList ++ ['\n'])
          forget "OPTARG".toList
        if found = [] ∨ c = ':' then
          if silent then assign "OPTARG".toList [c] else complain "Illegal option -" ""
          finish 0 index onward '?'
        else if (found.drop 1).head? = some ':' then
          match rest, args[index - 1]? with
          | [], none =>
              if silent then
                assign "OPTARG".toList [c]
                finish 0 index 0 ':'
              else
                complain "No arg for -" " option"
                finish 0 index 0 '?'
          | [], some value =>
              assign "OPTARG".toList value
              finish 0 (index + 1) 0 c
          | value, _ =>
              assign "OPTARG".toList value
              finish 0 index 0 c
        else
          assign "OPTARG".toList []
          finish 0 index onward c

/-- Read the next option. -/
def getOptions : Builtin := fun args => do
  match args with
  | known :: name :: [] => getOption known name (← get).args
  | known :: name :: args => getOption known name args
  | _ => fail "Usage: getopts optstring var [arg...]".toList

/-! ## Input -/

/-- The characters of a line, each with whether it may separate values; what is left behind the
line; and whether the line has an end. A backslash joins lines and keeps a character. -/
def readLineCells (raw : Bool) : List (Bool × Char) → List Char →
    List (Bool × Char) × List Char × Bool
  | seen, [] => (seen.reverse, [], false)
  | seen, ['\\'] => ((if raw then (true, '\\') :: seen else seen).reverse, [], false)
  | seen, '\\' :: c :: cs =>
      if raw then
        if c = '\n' then (((true, '\\') :: seen).reverse, cs, true)
        else readLineCells raw ((true, c) :: (true, '\\') :: seen) cs
      else if c = '\n' then readLineCells raw seen cs
      else readLineCells raw ((false, c) :: seen) cs
  | seen, c :: cs =>
      if c = '\n' then (seen.reverse, cs, true) else readLineCells raw ((true, c) :: seen) cs

/-- Give values to variables; those without a value are empty. -/
def assignAll : List (List Char) → List (List Char) → Run PUnit
  | [], _ => pure ()
  | name :: names, [] => do
      assign name []
      assignAll names []
  | name :: names, value :: values => do
      assign name value
      assignAll names values

/-- Read a line of the input into variables. -/
def readInput : Builtin := fun args => do
  let (given, names) ← optionsOf "r" "p" args
  if names = [] then fail "arg count".toList
  let s ← get
  let input := s.input 0
  let (cells, rest, ended) := readLineCells (isGiven given 'r') [] input.text
  let cells := cells.filter (·.2 ≠ '\x00')
  set (s.setInput 0 { input with text := rest })
  assignAll names (valuesOf s.separators names.length cells)
  return (if ended then 0 else 1)

/-! ## Signals -/

/-- The names of the signals from zero on. -/
def signalNames : List String :=
  ["EXIT", "HUP", "INT", "QUIT", "ILL", "TRAP", "ABRT", "BUS", "FPE", "KILL", "USR1", "SEGV",
    "USR2", "PIPE", "ALRM", "TERM", "16", "CHLD", "CONT", "STOP", "TSTP", "TTIN", "TTOU", "URG",
    "XCPU", "XFSZ", "VTALRM", "PROF", "WINCH", "IO", "PWR", "SYS", "32", "33", "RTMIN"]
    ++ ((List.range 15).map fun i => "RTMIN+" ++ toString (i + 1))
    ++ ((List.range 14).map fun i => "RTMAX-" ++ toString (14 - i)) ++ ["RTMAX"]

/-- The signal that a text names or counts. -/
def signal? (least : Nat) (cs : List Char) : Option Signal :=
  let n? := match number? cs with
    | some n => if n < signalNames.length then some n else none
    | none => signalNames.findIdx? fun (name : String) => name.toList = cs.map Char.toUpper
  n?.filter (least ≤ ·)

/-- The name of a signal. -/
def signalName (n : Signal) : List Char := ((signalNames[n]?).getD "").toList

/-- What a signal does where no command is kept for it. -/
inductive SignalEffect where
  | none
  | kill
deriving DecidableEq

/-- The effect of a signal. -/
def effectOf (n : Signal) : SignalEffect :=
  if [0, 17, 18, 19, 20, 21, 22, 23, 28].contains n then .none else .kill

/-- Take a signal that was sent to this shell. -/
def takeSignal (n : Signal) : Run PUnit := do
  let s ← get
  match if n = 9 then none else Keyed.find? n s.traps with
  | some action =>
      if action ≠ [] ∧ ¬ s.arrived.contains n then set { s with arrived := n :: s.arrived }
  | none =>
      match effectOf n with
      | .none => pure ()
      | .kill =>
          set { s with status := 128 + n }
          throw .killed

/-- Send a signal to a process. The first shell is the only one that is known, and the processes
that were not waited for have come to their end. -/
def sendSignal (n : Signal) (target : List Char) : Run Nat := do
  let s ← get
  match integer? target with
  | none => fail ("Illegal number: ".toList ++ target)
  | some i =>
      if i = State.processNumber then
        if s.inner then
          set { s with world := { s.world with sent := s.world.sent ++ [n] } }
        else takeSignal n
        return 0
      else if 0 < i ∧ i ≤ (State.processNumber + s.jobs.length : Nat)
          ∧ (State.processNumber : Int) < i then return 0
      else
        warn "No such process\n".toList
        return 1

/-- The wording for `kill` that is not called as it should be. -/
def killUsage : List Char :=
  ("Usage: kill [-s sigspec | -signum | -sigspec] [pid | job]... or\n" ++
    "kill -l [exitstatus]").toList

/-- Name signals: all of them, or those that a status stands for. -/
def listSignals : Builtin := fun args => do
  match args with
  | [] => say ((['0', '\n']) ++ (signalNames.drop 1).flatMap fun name => name.toList ++ ['\n'])
  | arg :: _ =>
      let n ← numberOf arg
      let n := if 128 < n then n - 128 else n
      if 0 < n ∧ n < signalNames.length then say (signalName n ++ ['\n'])
      else fail ("invalid signal number or exit status: ".toList ++ arg)

/-- Send signals. -/
def kill : Builtin := fun args => do
  let sendAll (n : Signal) (targets : List (List Char)) : Run Nat := do
    if targets = [] then fail killUsage
    targets.foldlM (fun status target => do return max status (← sendSignal n target)) 0
  match args with
  | [] => fail killUsage
  | ['-', '-'] :: targets => sendAll 15 targets
  | ['-', 'l'] :: args => listSignals args
  | ['-', 's'] :: args =>
      match args with
      | [] => fail "No arg for -s option".toList
      | name :: targets =>
          match signal? 0 name with
          | some n => sendAll n (dropDashes targets)
          | none => failOn ("invalid signal number or name: ".toList ++ name) ""
  | arg :: targets =>
      match arg with
      | '-' :: name =>
          if name = [] then sendAll 15 args
          else
            match signal? 0 name with
            | some n => sendAll n (dropDashes targets)
            | none => fail ("Illegal option -".toList ++ name.take 1)
      | _ => sendAll 15 args

/-- Keep commands for signals. -/
def trapSignals : Builtin := fun args => do
  match dropDashes args with
  | [] =>
      let s ← get
      let traps := s.traps.mergeSort fun a b => a.1 ≤ b.1
      say (traps.flatMap fun (n, action) =>
        "trap -- ".toList ++ quotedText action ++ [' '] ++ signalName n ++ ['\n'])
  | first :: rest =>
      let resets := rest = [] ∨ (number? first).isSome
      let action := if resets ∨ first = ['-'] then none else some first
      let names := if resets then first :: rest else rest
      for name in names do
        match signal? 0 name with
        | none =>
            modify fun s => s.write 2 ("trap: ".toList ++ name ++ ": bad trap\n".toList)
            return 1
        | some n =>
            modify fun s =>
              { s with
                traps := match action with
                  | some action => Keyed.put n action s.traps
                  | none => Keyed.erase n s.traps }
      return 0

/-! ## Loops and functions -/

/-- Leave loops, or go on with their next round. -/
def skipLoops (skip : Nat → Skip) : Builtin := fun args => do
  let count ← match args with
    | [] => pure 1
    | arg :: _ =>
        match integer? arg with
        | some i => if 0 < i ∧ i ≤ 0x7FFFFFFF then pure i.toNat else
            fail ("Illegal number: ".toList ++ arg)
        | none => fail ("Illegal number: ".toList ++ arg)
  let s ← get
  let count := min count s.loops
  if 0 < count then set { s with skip := skip count }
  return 0

/-- Leave a function or a script. -/
def leave : Builtin := fun args => do
  let status ← match args with
    | [] => pure (← get).status
    | arg :: _ => numberOf arg
  modify fun s => { s with skip := .all (!args.isEmpty) }
  return status

/-- End the shell. -/
def exit : Builtin := fun args => do
  match args with
  | [] => modify fun s => { s with status := s.keptStatus.getD s.status }
  | arg :: _ =>
      let status ← numberOf arg
      modify fun s => { s with status }
  throw .ended

/-! ## Directories -/

/-- The directory where the shell stands. -/
def here (s : State) : List Char := ofBytes (Path.ofComponents s.world.files.current)

/-- Go to another directory. -/
def changeDirectory : Builtin := fun args => do
  let (_, args) ← optionsOf "LP" "" args
  let s ← get
  let (target, shown) :=
    match args with
    | [] => ((s.value? "HOME".toList).getD [], false)
    | ['-'] :: _ => ((s.value? "OLDPWD".toList).getD [], true)
    | target :: _ => (target, false)
  let target := if target = [] then ['.'] else target
  match s.world.files.resolve (toBytes target) with
  | .ok place =>
      if s.world.files.isDirectoryAt place then
        let old := here s
        let files := { s.world.files with current := place }
        set { s with world := { s.world with files }, found := [] }
        assign "OLDPWD".toList old
        assign "PWD".toList (here (← get))
        if shown then say (here (← get) ++ ['\n']) else return 0
      else fail ("can't cd to ".toList ++ target)
  | .error _ => fail ("can't cd to ".toList ++ target)

/-- Print the directory where the shell stands. -/
def printDirectory : Builtin := fun _ => do say (here (← get) ++ ['\n'])

/-! ## What remains -/

/-- Let names stand for texts, or tell for which they stand. -/
def setAliases : Builtin := fun args => do
  let line (name text : List Char) : List Char := name ++ '=' :: quotedText text ++ ['\n']
  if args = [] then
    say ((← get).aliases.flatMap fun (name, text) => line name text)
  else
    args.foldlM (fun status arg => do
      match splitAssignment arg with
      | (name, some text) =>
          modify fun s => { s with aliases := Keyed.put name text s.aliases }
          return status
      | (name, none) =>
          match Keyed.find? name (← get).aliases with
          | some text => return max status (← say (line name text))
          | none =>
              modify fun s => s.write 2 ("alias: ".toList ++ name ++ " not found\n".toList)
              return 1) 0

/-- Let names stand for nothing but themselves. -/
def unsetAliases : Builtin := fun args => do
  let (given, names) ← optionsOf "a" "" args
  if isGiven given 'a' then
    modify fun s => { s with aliases := [] }
    return 0
  names.foldlM (fun status name => do
    let s ← get
    if (Keyed.find? name s.aliases).isSome then
      set { s with aliases := Keyed.erase name s.aliases }
      return status
    else
      set (s.write 2 ("unalias: ".toList ++ name ++ " not found\n".toList))
      return 1) 0

/-- Wait for commands that were not waited for: they have come to their end. -/
def waitForJobs : Builtin := fun args => do
  let s ← get
  args.foldlM (fun _ arg => do
    let n ← numberOf arg
    if n ≤ State.processNumber then return 127
    return (s.jobs[n - State.processNumber - 1]?).getD 127) 0

/-- Let a command that was not waited for go on: none of them can. -/
def noJob : Builtin := fun _ => do
  let none := (← get).jobs = []
  fail (if none then "No current job" else "job (null) not created under job control").toList

/-- The commands of the shell that run no others, apart from the utilities among them. -/
def builtin? (name : List Char) : Option Builtin :=
  let idle : Builtin := fun _ => return 0
  ([(":", idle), ("alias", setAliases), ("break", skipLoops .leave), ("cd", changeDirectory),
    ("chdir", changeDirectory), ("continue", skipLoops .again), ("exit", exit),
    ("bg", noJob), ("export", exportVariables), ("fg", noJob), ("getopts", getOptions),
    ("jobs", idle), ("kill", kill), ("local", localVariables), ("pwd", printDirectory),
    ("read", readInput), ("readonly", closeVariables), ("return", leave), ("set", setShell),
    ("shift", shift),
    ("times", idle), ("trap", trapSignals), ("ulimit", fun _ => say "unlimited\n".toList),
    ("umask", fun args => if args = [] then say "0022\n".toList else return 0),
    ("unalias", unsetAliases), ("unset", unsetNames),
    ("wait", waitForJobs)].find? (·.1.toList = name)).map Prod.snd

end DiagServer.Posix.Shell
