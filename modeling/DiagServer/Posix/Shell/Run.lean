import DiagServer.Host.Room
import DiagServer.Posix.Shell.Call
import DiagServer.Posix.Shell.Redirect

/-!
# Running scripts

A command is run in the state of the shell and gives a status. Parts of the work of a shell are
done by shells that it starts: they share its files and channels, and have copies of all else. A
pipeline is run stage by stage. Every call takes one unit of fuel from its caller's, which bounds
the depth of the calls, and every command takes one from the budget of all shells.
-/

namespace DiagServer.Posix.Shell

/-! ## Steps -/

/-- Repeat a step with what the round before left, until it gives a result. The number bounds the
rounds. -/
def repeatFrom {α β : Type} (step : α → Run (α ⊕ β)) : Nat → α → Run β
  | 0, _ => throw .killed
  | rounds + 1, a => do
      match ← step a with
      | .inl a => repeatFrom step rounds a
      | .inr b => return b

/-- A bound for the number of rounds of a loop that runs a command in each round. -/
def maxRounds : Run Nat := do return (← get).world.budget + 1

/-- Take one command from the budget. -/
def spend : Run PUnit := do
  let s ← get
  match s.world.budget with
  | 0 => throw .killed
  | budget + 1 => set { s with world := { s.world with budget } }

/-- Set the number of the line that is being run. -/
def atLine (line : Nat) : Run PUnit := modify fun s => { s with line }

/-- What is to be passed over because of the loop that is running, if anything. If it is the last
loop that is to be left or to go on, that is done with. -/
def takeSkip : Run Skip := do
  let s ← get
  match s.skip with
  | .leave n =>
      set { s with skip := if n ≤ 1 then .nothing else .leave (n - 1) }
      return .leave n
  | .again n =>
      if n ≤ 1 then
        set { s with skip := .nothing }
        return .again n
      else
        set { s with skip := .again (n - 1) }
        return .leave n
  | skip => return skip

/-- Run a loop. -/
def inLoop (step : Run Nat) : Run Nat := do
  modify fun s => { s with loops := s.loops + 1 }
  let status ← step
  modify fun s => { s with loops := s.loops - 1 }
  return status

/-- Make a channel; the result is its place. -/
def newChannel (c : Channel) : Run Nat := do
  let s ← get
  set { s with world := { s.world with channels := s.world.channels.push c } }
  return s.world.channels.size

/-- Take the signals that others sent to the first shell. -/
def takeSent : Run PUnit := do
  let s ← get
  if s.inner ∨ s.world.sent = [] then return
  set { s with world := { s.world with sent := [] } }
  s.world.sent.forM takeSignal

/-- The world that a shell leaves to the one that started it, which stands where it stood. -/
def State.resume (s : State) (world : World) : State :=
  { s with world := { world with files := { world.files with current := s.world.files.current } } }

/-- A shell for a part of the work of this one. It has no commands for signals. -/
def State.forked (s : State) : State :=
  { s with inner := true, traps := s.traps.filter (·.2 = []) }

/-- The signal that stands for the end of the shell. -/
def endSignal : Signal := 0

/-! ## Utilities -/

/-- Write the output of a utility and its complaints, each where it belongs; the first number is
the length of the output that was written. The result tells whether the output could be. -/
def deliver (name : List Char) : Nat → Stream → List (Nat × List (List Char)) → Run Bool
  | _, output, [] => do
      match (← get).write? 1 output with
      | some s =>
          set s
          return true
      | none => return output.text = []
  | done, output, (place, e) :: es => do
      let count := place - done
      let fine ← deliver name done { text := output.take count } []
      modify fun s => s.write 2 (complaint name e)
      let restFine ← deliver name (done + count) (output.drop count) es
      return fine && restFine

/-- What the complaints of the shell start with. -/
def State.front (s : State) : List Char :=
  s.zero ++ ": ".toList ++ Nat.toDigits 10 s.line ++ ": ".toList

/-- Run a utility, as a program or as a command of the shell. -/
def runUtility (isProgram : Bool) (u : Utility) (name : List Char) : Builtin := fun args => do
  let s ← get
  let o := u { files := s.world.files, input := s.input 0 } args
  set (s.setInput 0 o.input)
  if ← deliver (if isProgram then name else s.front ++ name) 0 o.output o.errors then
    return o.status
  else
    if isProgram then
      modify fun s =>
        s.write 2 (complaint name ["write error".toList, "Bad file descriptor".toList])
      return 1
    else
      warn (name ++ ": I/O error".toList)
      return max o.status 1

/-! ## Shells that are started -/

/-- The variables that the shell hands on to programs. -/
def passedVariables (s : State) : List (List Char × Variable) :=
  s.bindings.filter fun (name, v) => v.exported && v.value.isSome && isName name

/-- Whether a program can be given some arguments and the variables that are handed on. -/
def hasRoom (s : State) (name : List Char) (args : List (List Char)) : Bool :=
  Host.hasRoomFor name.length <| (name :: args).map List.length ++ (passedVariables s).map
    fun (name, v) => name.length + 1 + (v.value.getD []).length

/-- The variables of a shell that is started with some of another one's. -/
def startVariables (s : State) : List (List Char × Variable) :=
  let passed := passedVariables s
  let put (name : String) (value : List Char) (exported : Bool)
      (vs : List (List Char × Variable)) : List (List Char × Variable) :=
    let old := (Keyed.find? name.toList vs).getD {}
    Keyed.put name.toList
      { value := some value, exported := old.exported || exported, readOnly := false } vs
  let usual (name : String) (value : List Char) (vs : List (List Char × Variable)) :
      List (List Char × Variable) :=
    if (Keyed.find? name.toList vs).isSome then vs else put name value false vs
  let passed := passed.map fun (name, v) => (name, { v with readOnly := false })
  passed |> usual "PATH" usualDirectories |> usual "PS1" "# ".toList |> usual "PS2" "> ".toList
    |> usual "PS4" "+ ".toList |> put "IFS" " \t\n".toList false |> put "OPTIND" ['1'] false
    |> put "PPID" (Nat.toDigits 10 (State.processNumber - 1)) false |> put "PWD" (here s) true

/-- A shell that is started by a name. -/
def State.started (s : State) (name : List Char) : State :=
  { world := { s.world with sent := [] }
    zero := name
    args := []
    bindings := startVariables s
    descriptors := s.descriptors
    traps := s.traps.filter (·.2 = [])
    line := 0 }

/-- Set the options that a shell is started with. The result tells whether a script is to follow
among the arguments, and holds the arguments behind the options. -/
def startOptions : Bool → List (List Char) → Run (Bool × List (List Char))
  | given, [] => return (given, [])
  | given, arg :: args => do
      if arg = ['-'] ∨ arg = ['-', '-'] then return (given, args)
      match arg with
      | sign :: letters =>
          if sign = '-' ∨ sign = '+' then
            let own := ['c', 'l']
            let given := given || letters.contains 'c'
            if ← setLetters (sign = '-') (letters.filter (!own.contains ·)) then
              match args with
              | [] =>
                  showOptions (sign = '+')
                  return (given, [])
              | name :: args =>
                  setNamed (sign = '-') name
                  startOptions given args
            else startOptions given args
          else return (given, arg :: args)
      | [] => return (given, arg :: args)

/-- The text of a script in a file. -/
def scriptText (path : List Char) : Run (List Char) := do
  let s ← get
  match namedDescriptor? path with
  | some descriptor =>
      set (s.setInput descriptor {})
      return (s.input descriptor).text
  | none =>
      match openInput s.world.files path with
      | .ok stream => return stream.text
      | .error .isDirectory => return []
      | .error e =>
          fail ("cannot open ".toList ++ path ++ ": ".toList ++ (openFault false e).toList)

/-- Take the arguments that a shell is started with. The result is the script, if it is not to be
read from the input. -/
def takeArguments (args : List (List Char)) : Run (Option (List Char)) := do
  let (given, args) ← startOptions false args
  let name (args : List (List Char)) : Run PUnit :=
    match args with
    | [] => pure ()
    | zero :: args => modify fun s => { s with zero, args }
  match given, args with
  | true, [] => fail "-c requires an argument".toList
  | true, script :: args =>
      name args
      return some script
  | false, [] =>
      setOption true 's'
      return none
  | false, path :: rest =>
      if (← get).has 's' then
        modify fun s => { s with args }
        return none
      else
        let text ← scriptText path
        modify fun s => { s with zero := path, args := rest }
        return some text

/-! ## Running -/

/-- The greatest number of functions that may be running within each other. -/
def maxCalls : Nat := 1000

/-- Whether a failure of a command may end the shell, where it does not follow from the failure of
a part. -/
def Command.isChecked : Command → Bool
  | .simple .. | .subshell .. | .background .. | .pipeline .. => true
  | _ => false

/-- The name that a command starts with, if that tells which program it calls. -/
def Command.programName? : Command → Option (List Char)
  | .simple _ _ (w :: _) _ =>
      (Word.bareText? w).filter fun name => isName name && !isShellName name
  | _ => none

/-- The wording for a shell that was ended by a signal. -/
def signalText (status : Nat) : List Char :=
  match [(1, "Hangup"), (9, "Killed"), (10, "User defined signal 1"),
      (12, "User defined signal 2"), (14, "Alarm clock"), (15, "Terminated")].lookup
      (status - 128) with
  | some text => (text ++ "\n").toList
  | none => []

mutual

/-- Run a command. `tested` tells whether its failure has a consequence, and so is fine. -/
def exec : Nat → Bool → Command → Run Nat
  | 0, _, _ => throw .killed
  | fuel + 1, tested, c => do
      spend
      let s ← get
      if s.has 'n' then return s.status
      runTraps fuel
      let status ← execBare fuel tested c
      modify fun s => { s with status }
      runTraps fuel
      let s ← get
      if c.isChecked ∧ ¬ tested ∧ status ≠ 0 ∧ s.has 'e' then throw .ended
      return s.status

/-- Run a command, apart from the signals that arrive and from what its status leads to. -/
def execBare : Nat → Bool → Command → Run Nat
  | 0, _, _ => throw .killed
  | fuel + 1, tested, c => do
      match c with
      | .simple line assignments words redirections =>
          execSimple fuel tested line assignments words redirections
      | .redirected line c redirections =>
          atLine line
          let targets ← expandTargets (capture fuel) redirections
          withRedirections targets do
            if ← redirect targets then exec fuel tested c else return 2
      | .subshell line c redirections =>
          atLine line
          let targets ← expandTargets (capture fuel) redirections
          inShell fuel id do
            if ← redirect targets then exec fuel tested c
            else
              modify fun s => { s with status := 2 }
              throw .failed
      | .background c =>
          let status ← inShell fuel (·.connect 0 (.device {})) (exec fuel false c)
          modify fun s => { s with jobs := s.jobs ++ [status] }
          return 0
      | .pipeline cs => execStages fuel tested none cs
      | .negated c => return (if (← exec fuel true c) = 0 then 1 else 0)
      | .ifSucceeds a b =>
          let status ← exec fuel true a
          if status ≠ 0 ∨ (← get).skip ≠ .nothing then return status else exec fuel tested b
      | .ifFails a b =>
          let status ← exec fuel true a
          if status = 0 ∨ (← get).skip ≠ .nothing then return status else exec fuel tested b
      | .sequence a b =>
          let status ← exec fuel tested a
          if (← get).skip ≠ .nothing then return status else exec fuel tested b
      | .choice condition yes no =>
          let status ← exec fuel true condition
          if (← get).skip ≠ .nothing then return status
          else if status = 0 then exec fuel tested yes
          else
            match no with
            | some no => exec fuel tested no
            | none => return 0
      | .loop succeeds condition body => inLoop do
          let round (last : Nat) : Run (Nat ⊕ Nat) := do
            let status ← exec fuel true condition
            match ← takeSkip with
            | .all _ => return .inr status
            | .leave _ => return .inr last
            | .again _ => return .inl last
            | .nothing =>
                if (status = 0) ≠ succeeds then return .inr last
                let status ← exec fuel tested body
                match ← takeSkip with
                | .nothing | .again _ => return .inl status
                | _ => return .inr status
          repeatFrom round (← maxRounds) 0
      | .each line name words body =>
          atLine line
          let fields ← words.foldlM (fun fields w => do
            return fields ++ (← expandFields (capture fuel) w)) []
          inLoop do
            let round : List (List Char) × Nat → Run ((List (List Char) × Nat) ⊕ Nat)
              | ([], status) => return .inr status
              | (field :: fields, _) => do
                  assign name field
                  let status ← exec fuel tested body
                  match ← takeSkip with
                  | .nothing | .again _ => return .inl (fields, status)
                  | _ => return .inr status
            repeatFrom round (← maxRounds) (fields, 0)
      | .select line word arms =>
          atLine line
          let text ← expandText (capture fuel) .atStart word
          let arm ← arms.findSomeM? fun (patterns, c) => do
            if ← patterns.anyM fun w => do return fits (← expandToPattern (capture fuel) w) text
            then return some c
            else return none
          match arm with
          | some (some c) => exec fuel tested c
          | _ => return 0
      | .define name body =>
          modify fun s => { s with functions := Keyed.put name body s.functions }
          return 0

/-- Run the stages of a pipeline, the first of them with an input or with that of the shell. A
stage that has spent the budget was in vain, and the next one gets half of what it had. -/
def execStages : Nat → Bool → Option Stream → List Command → Run Nat
  | 0, _, _, _ => throw .killed
  | _ + 1, _, _, [] => return 0
  | fuel + 1, tested, input, c :: cs => do
      let place ← newChannel (.pipe (input.getD {}) [])
      let reading (s : State) : State := if input.isSome then s.lead 0 (some place) else s
      c.programName?.forM remember
      if cs = [] then inShell fuel reading (exec fuel tested c)
      else
        let budget := (← get).world.budget
        let _ ← inShell fuel (fun s => (reading s).lead 1 (some place)) (exec fuel tested c)
        let s ← get
        if s.world.budget = 0 then set { s with world := { s.world with budget := budget / 2 } }
        execStages fuel tested (some (s.writtenTo place)) cs

/-- Run a step in a shell of its own; the result is the status of that in the end. -/
def inShell : Nat → (State → State) → Run Nat → Run Nat
  | 0, _, _ => throw .killed
  | fuel + 1, prepare, step => do
      let s ← get
      set (prepare s.forked)
      let _ ← runToEnd fuel step
      let t ← get
      set (s.resume t.world)
      takeSent
      return t.status

/-- Run a step, and the command that is kept for the end of the shell. The result tells whether the
shell was killed. -/
def runToEnd : Nat → Run Nat → Run Bool
  | 0, _ => throw .killed
  | fuel + 1, step => do
      if (← attempt step) matches .error .killed then return true
      let s ← get
      match Keyed.find? endSignal s.traps with
      | none => return false
      | some action =>
          set { s with
            traps := Keyed.erase endSignal s.traps
            skip := .nothing
            keptStatus := some s.status }
          match ← attempt (runText fuel false action) with
          | .ok _ => modify fun t => { t with status := s.status }
          | .error .killed => return true
          | .error _ => pure ()
          return false

/-- Run the commands that are kept for the signals that have arrived. -/
def runTraps : Nat → Run PUnit
  | 0 => pure ()
  | fuel + 1 => do
      let s ← get
      if s.arrived = [] then return
      let status := s.keptStatus.getD s.status
      set { s with arrived := [], keptStatus := some status }
      (s.arrived.mergeSort fun a b => a ≤ b).forM fun n => do
        let t ← get
        if t.skip ≠ .nothing then set { t with arrived := n :: t.arrived }
        else
          let _ ← runText fuel false ((Keyed.find? n t.traps).getD [])
          modify fun t => if t.skip = .all true then t else { t with status }
      modify fun t => { t with keptStatus := s.keptStatus }

/-- Run a script, one complete command after the other. -/
def runText : Nat → Bool → List Char → Run Nat
  | 0, _, _ => throw .killed
  | fuel + 1, tested, text => do
      let round (source : Source × Nat) : Run ((Source × Nat) ⊕ Nat) := do
        let (source, last) := source
        let s ← get
        match readLine { source with aliases := s.aliases, documents := s.documents } with
        | .error e _ =>
            atLine e.line
            fail ("Syntax error: " ++ e.what).toList
        | .ok none _ => return .inr last
        | .ok (some none) source => return .inl (source, last)
        | .ok (some (some c)) source =>
            set { s with documents := source.documents }
            let status ← exec fuel tested c
            if (← get).skip = .nothing then return .inl (source, status) else return .inr status
      repeatFrom round ((← maxRounds) + text.length) ({ rest := text }, 0)

/-- Run commands for their output. -/
def capture : Nat → Capture
  | 0, _ => throw .killed
  | _ + 1, none => return []
  | fuel + 1, some c => do
      let place ← newChannel (.pipe {} [])
      let status ← inShell fuel (·.lead 1 (some place)) (exec fuel false c)
      modify fun s => { s with outputStatus := status }
      return ((← get).writtenTo place).text

/-- Show a command that is about to be run, where the complaints of the shell went before its
redirections. -/
def trace : Nat → Option Nat → List (List Char) → Run PUnit
  | 0, _, _ => throw .killed
  | fuel + 1, place, texts => do
      let s ← get
      let prompt := (s.value? "PS4".toList).getD []
      let prompt ←
        match readPrompt { rest := prompt } with
        | .ok w _ => expandText (capture fuel) .never w
        | .error .. => pure prompt
      modify fun s =>
        ((s.lead 2 place).write 2 (prompt ++ [' '].intercalate texts ++ ['\n'])).lead 2 (s.place? 2)

/-- Run a command of words. Variables that are set for a program, a function or a command that is
not special are as before behind it. -/
def execSimple : Nat → Bool → Nat → List (List Char × Word) → List Word →
    List (Redirection Word) → Run Nat
  | 0, _, _, _, _, _ => throw .killed
  | fuel + 1, tested, line, assignments, words, redirections => do
      modify fun s => { s with line, outputStatus := 0 }
      let fields ← expandWords (capture fuel) [] words
      let s ← get
      let call := Call.ofFields s fields
      let special := fields.head?.any isSpecialName
      let lasting := call.fields.head? = some "exec".toList
      let temporary := fields ≠ [] && !special
      let exported := temporary || (lasting && 1 < call.fields.length)
      if temporary then set { s with saved := [] :: s.saved }
      let targets ← expandTargets (capture fuel) redirections
      let status ← withRedirections (if lasting then [] else targets) do
        if ← redirect targets then
          let values ← assignments.mapM fun (name, w) => do
            let value ← expandText (capture fuel) .inPaths w
            if temporary then saveVariable name
            assign name value
            if exported then change name fun v => { v with exported := true }
            return name ++ '=' :: value
          if (← get).has 'x' then trace fuel (s.place? 2) (values ++ call.fields)
          callCommand fuel tested special call
        else if special then
          modify fun s => { s with status := 2 }
          throw .failed
        else return 2
      restoreVariables s.saved.length
      return status

/-- Call what a command calls. -/
def callCommand : Nat → Bool → Bool → Call → Run Nat
  | 0, _, _, _ => throw .killed
  | fuel + 1, tested, special, call => do
      let s ← get
      match call.fields with
      | [] => return s.outputStatus
      | name :: args =>
          let hidden := call.direct || isSpecialName name
          match if hidden then none else Keyed.find? name s.functions with
          | some body => callFunction fuel tested body args
          | none =>
              if isShellName name then callShell fuel tested special name args
              else callProgram fuel call.usual name args

/-- Call a function. -/
def callFunction : Nat → Bool → Command → List (List Char) → Run Nat
  | 0, _, _, _ => throw .killed
  | fuel + 1, tested, body, args => do
      let s ← get
      if maxCalls ≤ s.calls then fail "Maximum function recursion depth (1000) reached".toList
      let call : Run Nat := do
        set { s with args, optionIndex := 1, optionOffset := 0, loops := 0, calls := s.calls + 1 }
        exec fuel tested body
      tidily call fun s t =>
        { t with
          args := s.args, optionIndex := s.optionIndex, optionOffset := s.optionOffset
          loops := s.loops, calls := s.calls
          skip := if t.skip.isAll then .nothing else t.skip }

/-- Call a command of the shell. A failure ends the script only if the command is special. -/
def callShell : Nat → Bool → Bool → List Char → Builtin
  | 0, _, _, _, _ => throw .killed
  | fuel + 1, tested, special, name, args => do
      let step : Run Nat :=
        if name = "eval".toList then
          if args = [] then return 0 else runText fuel tested (joined args)
        else if name = ['.'] then runFile fuel args
        else if name = "exec".toList then becomeProgram fuel args
        else if name = "command".toList then tellCommand args
        else if name = "hash".toList then tellFound args
        else if name = "type".toList then tellTypes args
        else
          match builtin? name, shellUtility? name with
          | some b, _ => b args
          | none, some u => runUtility false u name args
          | none, none => return 127
      let named : Run Nat := do
        modify fun s => { s with command := some name }
        step
      match ← attempt (tidily named fun s t => { t with command := s.command }) with
      | .ok status => return status
      | .error .failed => if special then throw .failed else return (← get).status
      | .error e => throw e

/-- Run the script in a file as a part of this one. -/
def runFile : Nat → Builtin
  | 0, _ => throw .killed
  | fuel + 1, args => do
      match dropDashes args with
      | [] => return 0
      | name :: _ =>
          let s ← get
          let path ←
            if name.contains '/' then pure name
            else
              match (candidates s false name).find? (isFileAt s.world.files) with
              | some path => pure path
              | none => failOn name "not found"
          let text ← scriptText path
          modify fun s => { s with command := some path }
          let status ← runText fuel false text
          modify fun s => { s with skip := if s.skip.isAll then .nothing else s.skip }
          return status

/-- Call a program. -/
def callProgram : Nat → Bool → List Char → Builtin
  | 0, _, _, _ => throw .killed
  | fuel + 1, usual, name, args => do
      if ¬ usual then remember name
      let s ← get
      match findProgram s.world.files (candidates s usual name) with
      | .program program =>
          if ¬ hasRoom s name args then
            warn (name ++ ": Argument list too long".toList)
            return 126
          match utility? program with
          | some u => runUtility true u name args
          | none => runShell fuel name args
      | found =>
          let (status, what) := found.failure (name.contains '/')
          warn (name ++ ": ".toList ++ what.toList)
          return status

/-- Go on as a program instead of the shell, if there is one. -/
def becomeProgram : Nat → Builtin
  | 0, _ => throw .killed
  | _ + 1, [] => return 0
  | fuel + 1, name :: args => do
      let s ← get
      if findProgram s.world.files (candidates s false name) matches .program _ then
        set { s with traps := Keyed.erase endSignal s.traps }
      let status ← callProgram fuel false name args
      modify fun s => { s with status }
      throw .ended

/-- Start a shell by a name with arguments. -/
def runShell : Nat → List Char → Builtin
  | 0, _, _ => throw .killed
  | fuel + 1, name, args => do
      let s ← get
      set (s.started name)
      let killed ← runToEnd fuel do
        match ← takeArguments args with
        | some text => runText fuel false text
        | none =>
            let t ← get
            set (t.setInput 0 {})
            runText fuel false (t.input 0).text
      let t ← get
      let world := { t.world with sent := s.world.sent }
      set (s.resume world)
      if killed then modify fun s => s.write 2 (signalText t.status)
      return t.status

end

/-! ## From outside -/

/-- A bound for the depth of the calls of a script. -/
def maxCallDepth : Nat := 20000

/-- The number of commands that a script may take. -/
def maxCommands : Nat := 20000

/-- What a shell prints that is started by a name with some arguments, some variables and some
input, and the files that it leaves. -/
def output (fs : FileSystem) (bindings : List (List Char × List Char)) (name : List Char)
    (args : List (List Char)) (input : List Char) : List Char × FileSystem :=
  let s : State := {
    world := {
      files := fs
      channels := #[.pipe { text := input } [], .pipe {} [], .pipe {} []]
      budget := maxCommands }
    zero := name
    args := []
    bindings := bindings.map fun (name, value) =>
      (name, { value := some value, exported := true }) }
  match runShell maxCallDepth name args s with
  | .ok _ s | .error _ s => ((s.writtenTo 1).text, s.world.files)

end DiagServer.Posix.Shell
