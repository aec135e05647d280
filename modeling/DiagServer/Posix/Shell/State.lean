import DiagServer.Keyed
import DiagServer.Posix.Shell.Fields
import DiagServer.Posix.Shell.Pattern
import DiagServer.Posix.Shell.Source
import DiagServer.Posix.Utility

/-!
# What a shell keeps

A shell keeps variables, functions, arguments and the status of its last command. Its descriptors
lead to channels; several may lead to the same one. A channel is read from its stream, and what is
written to it is gathered or, if it belongs to a file, put into that. The files and the channels
are shared with the shells that a shell starts.
-/

namespace DiagServer.Posix.Shell

/-- A signal's number. -/
abbrev Signal := Nat

/-- Where a descriptor may lead. -/
inductive Channel where
  /-- What can be read, and what was written, in pieces, newest first. -/
  | pipe (stream : Stream) (written : List Stream)
  /-- A place of a file, to read or write there; with `atEnd`, writing is behind the end. -/
  | file (place : List (List UInt8)) (offset : Nat) (atEnd : Bool)
  /-- A device, which swallows what is written. -/
  | device (stream : Stream)

/-- What is the same for a shell and for those that it starts. -/
structure World where
  files : FileSystem
  channels : Array Channel
  /-- The number of commands that may still be run. -/
  budget : Nat
  /-- The signals that the first shell was sent by others. -/
  sent : List Signal := []

/-- A variable: its value, if it has one, and whether it is passed on and cannot be changed. -/
structure Variable where
  value : Option (List Char) := none
  exported : Bool := false
  readOnly : Bool := false

/-- What is to be passed over. -/
inductive Skip where
  | nothing
  /-- This many loops are to be left. -/
  | leave (loops : Nat)
  /-- As many loops but one are to be left, and that is to go on with its next round. -/
  | again (loops : Nat)
  /-- A function or a script is to be left, with a status that was told or not. -/
  | all (told : Bool)
deriving DecidableEq

/-- Whether a function or a script is to be left. -/
def Skip.isAll : Skip → Bool
  | all _ => true
  | _ => false

/-- The state of a shell. -/
structure State where
  world : World
  /-- The name of the shell. -/
  zero : List Char
  args : List (List Char)
  bindings : List (List Char × Variable) := []
  functions : List (List Char × Command) := []
  aliases : List (List Char × List Char) := []
  /-- The texts that redirections take from scripts. -/
  documents : Array Word := #[]
  /-- The letters of the options that are set. -/
  options : List Char := []
  /-- The channels that the descriptors lead to, by their places. -/
  descriptors : List (Nat × Nat) := [(0, 0), (1, 1), (2, 2)]
  /-- The commands to run on signals; none is run on one that is ignored. -/
  traps : List (Signal × List Char) := []
  /-- The signals that are to be dealt with. -/
  arrived : List Signal := []
  status : Nat := 0
  /-- The status of the last script that was run for its output. -/
  outputStatus : Nat := 0
  line : Nat := 1
  /-- The command of the shell that is running. -/
  command : Option (List Char) := none
  skip : Skip := .nothing
  loops : Nat := 0
  calls : Nat := 0
  /-- The variables that are to be as before, by the calls that changed them, newest first. -/
  saved : List (List (List Char × Option Variable)) := []
  /-- The status that is kept while a command for a signal is running. -/
  keptStatus : Option Nat := none
  /-- Whether another shell started this one for a part of its work. -/
  inner : Bool := false
  /-- The number of commands that were not waited for, and their statuses. -/
  jobs : List Nat := []
  /-- The names of the programs that were found. -/
  found : List (List Char) := []
  /-- The number of the argument where reading options goes on, and where in the one before it
  that does if it is not at its end. -/
  optionIndex : Nat := 1
  optionOffset : Nat := 0

/-- Why running stops. -/
inductive Stop where
  /-- The shell has come to its end. -/
  | ended
  /-- Something went wrong that ends the script. -/
  | failed
  /-- The shell was killed, or has run too long. -/
  | killed
deriving DecidableEq

/-- A step of a shell. -/
abbrev Run := EStateM Stop State

/-! ## Channels -/

namespace State

/-- The place of the channel that a descriptor leads to. -/
def place? (s : State) (descriptor : Nat) : Option Nat := Keyed.find? descriptor s.descriptors

/-- The channel that a descriptor leads to. -/
def channel? (s : State) (descriptor : Nat) : Option Channel := do
  s.world.channels[← s.place? descriptor]?

/-- Put a channel in a place. -/
def setChannel (s : State) (place : Nat) (c : Channel) : State :=
  { s with world := { s.world with channels := s.world.channels.setIfInBounds place c } }

/-- Lead a descriptor to the channel in a place, or to nowhere. -/
def lead (s : State) (descriptor : Nat) (place : Option Nat) : State :=
  { s with
    descriptors :=
      match place with
      | some place => Keyed.put descriptor place s.descriptors
      | none => Keyed.erase descriptor s.descriptors }

/-- The state with a new channel that a descriptor leads to. -/
def connect (s : State) (descriptor : Nat) (c : Channel) : State :=
  let place := s.world.channels.size
  { s with world := { s.world with channels := s.world.channels.push c } }.lead descriptor place

/-- The bytes of a file as characters. -/
def textAt (s : State) (place : List (List UInt8)) : List Char :=
  match s.world.files.entry? place with
  | some (.file bytes) => ofBytes bytes
  | _ => []

/-- What can be read from a descriptor. -/
def input (s : State) (descriptor : Nat) : Stream :=
  match s.channel? descriptor with
  | some (.pipe stream _) => stream
  | some (.device stream) => stream
  | some (.file place offset _) => { text := (s.textAt place).drop offset, seekable := true }
  | none => {}

/-- Leave this much to be read from a descriptor. -/
def setInput (s : State) (descriptor : Nat) (stream : Stream) : State :=
  match s.place? descriptor, s.channel? descriptor with
  | some place, some (.pipe _ written) => s.setChannel place (.pipe stream written)
  | some place, some (.file path _ atEnd) =>
      s.setChannel place (.file path ((s.textAt path).length - stream.text.length) atEnd)
  | _, _ => s

/-- Write to a descriptor; `none` if it leads nowhere. -/
def write? (s : State) (descriptor : Nat) (stream : Stream) : Option State := do
  let place ← s.place? descriptor
  match ← s.channel? descriptor with
  | .pipe input written =>
      if stream.text = [] ∧ stream.forever = none then some s
      else some (s.setChannel place (.pipe input (stream :: written)))
  | .device _ => some s
  | .file path offset atEnd =>
      let old := s.textAt path
      let offset := if atEnd then old.length else offset
      let gap := List.replicate (offset - old.length) '\x00'
      let new := old.take offset ++ gap ++ stream.text ++ old.drop (offset + stream.text.length)
      let files := s.world.files.addFile path (toBytes new)
      let s := { s with world := { s.world with files } }
      some (s.setChannel place (.file path (offset + stream.text.length) atEnd))

/-- Write a text to a descriptor, if it leads anywhere. -/
def write (s : State) (descriptor : Nat) (text : List Char) : State :=
  (s.write? descriptor { text }).getD s

/-- What was written to the channel in a place. -/
def writtenTo (s : State) (place : Nat) : Stream :=
  match s.world.channels[place]? with
  | some (.pipe _ written) => written.reverse.foldr Stream.append {}
  | _ => {}

/-- The channel that a file is opened as. -/
def channelOf (place : List (List UInt8)) (offset : Nat) (atEnd : Bool) : Channel :=
  if place == nullDevice then .device {}
  else if place == zeroDevice then .device { forever := some '\x00' }
  else .file place offset atEnd

/-! ## Variables -/

/-- A variable, which may have no value. -/
def variableOf (s : State) (name : List Char) : Variable :=
  (Keyed.find? name s.bindings).getD {}

/-- The value of a variable. -/
def value? (s : State) (name : List Char) : Option (List Char) := (s.variableOf name).value

/-- Put a variable in the place of another. -/
def setVariable (s : State) (name : List Char) (v : Variable) : State :=
  { s with bindings := Keyed.put name v s.bindings }

/-- What separates fields. -/
def separators (s : State) : Separators :=
  match s.value? "IFS".toList with
  | some chars => ⟨chars⟩
  | none => .usual

/-- Whether an option is set. -/
def has (s : State) (option : Char) : Bool := s.options.contains option

/-- The number of the process of the first shell. -/
def processNumber : Nat := 4242

/-- The number of the process of the last command that was not waited for. -/
def lastJob? (s : State) : Option Nat :=
  if s.jobs = [] then none else some (processNumber + s.jobs.length)

/-- The letters of options, in the order in which they are shown. -/
def optionLetters : List Char := "ubaCEVvxsnmiIfe".toList

/-- The value of a parameter other than the arguments as a whole, `none` if it is not set. -/
def parameter? (s : State) (name : List Char) : Option (List Char) :=
  let shown (n : Nat) : List Char := Nat.toDigits 10 n
  match number? name with
  | some 0 => some s.zero
  | some (n + 1) => s.args[n]?
  | none =>
      if name = ['?'] then some (shown s.status)
      else if name = ['#'] then some (shown s.args.length)
      else if name = ['$'] then some (shown processNumber)
      else if name = ['!'] then s.lastJob?.map shown
      else if name = ['-'] then some (optionLetters.filter s.options.contains)
      else s.value? name

end State

/-! ## Failing -/

/-- Complain, under the name of the shell and of the command that is running. -/
def warn (what : List Char) : Run PUnit :=
  modify fun s =>
    let parts := [Nat.toDigits 10 s.line] ++ s.command.toList ++ [what]
    s.write 2 (complaint s.zero parts)

/-- Complain and fail. -/
def fail {α : Type} (what : List Char) : Run α := do
  warn what
  modify fun s => { s with status := 2 }
  throw .failed

/-- Complain about a subject and fail. -/
def failOn {α : Type} (subject : List Char) (what : String) : Run α :=
  fail (subject ++ ": ".toList ++ what.toList)

/-- The outcome of a step, with what stopped it if it was stopped. -/
def attempt {α : Type} (step : Run α) : Run (Except Stop α) := fun s =>
  match step s with
  | .ok a s => .ok (.ok a) s
  | .error e s => .ok (.error e) s

/-- Run a step, and change the state behind it even if it was stopped. The change depends on the
state before the step, too. -/
def tidily {α : Type} (step : Run α) (tidy : State → State → State) : Run α := fun s =>
  match step s with
  | .ok a t => .ok a (tidy s t)
  | .error e t => .error e (tidy s t)

/-! ## Setting variables -/

/-- The number that a text stands for; else it is a failure. -/
def numberOf (cs : List Char) : Run Nat := do
  match integer? cs with
  | some i =>
      if 0 ≤ i ∧ i ≤ 0x7FFFFFFF then return i.toNat else fail ("Illegal number: ".toList ++ cs)
  | none => fail ("Illegal number: ".toList ++ cs)

/-- Change a variable, which must not be closed to that. -/
def change (name : List Char) (f : Variable → Variable) : Run PUnit := do
  if ¬ isName name then failOn name "bad variable name"
  let s ← get
  let v := s.variableOf name
  if v.readOnly then failOn name "is read only"
  set (s.setVariable name (f v))

/-- Set a variable. -/
def assign (name value : List Char) : Run PUnit := do
  let all := (← get).has 'a'
  change name fun v => { v with value := some value, exported := v.exported || all }
  if name = "PATH".toList then modify fun s => { s with found := [] }
  if name = "OPTIND".toList then
    let index ← numberOf value
    modify fun s => { s with optionIndex := max index 1, optionOffset := 0 }

/-- Take the value of a variable away. -/
def forget (name : List Char) : Run PUnit := do
  change name id
  modify fun s => { s with bindings := Keyed.erase name s.bindings }

/-- Keep a variable to give it back its value when the current call ends. -/
def saveVariable (name : List Char) : Run PUnit :=
  modify fun s =>
    match s.saved with
    | frame :: frames =>
        if (Keyed.find? name frame).isSome then s
        else { s with saved := ((name, Keyed.find? name s.bindings) :: frame) :: frames }
    | [] => s

/-- Variables as they were before some changes. -/
def restored (frame : List (List Char × Option Variable)) (vs : List (List Char × Variable)) :
    List (List Char × Variable) :=
  frame.foldl (fun vs (name, old) =>
    match old with
    | some v => Keyed.put name v vs
    | none => Keyed.erase name vs) vs

/-- Undo the changes of variables that calls made, except for so many of the oldest calls. -/
def restoreVariables (kept : Nat) : Run PUnit :=
  modify fun s =>
    let count := s.saved.length - kept
    { s with
      bindings := (s.saved.take count).foldl (fun vs frame => restored frame vs) s.bindings
      saved := s.saved.drop count }

end DiagServer.Posix.Shell
