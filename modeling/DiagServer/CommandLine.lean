import DiagServer.Host.FileSystem

/-!
# The command line

The program serves a client on its standard streams, or checks files; it serves if nothing is
said. The option for the configuration file may stand before or behind the word that says which,
once in each place, and behind it wins. Two dashes end the options.
-/

namespace DiagServer.CommandLine

/-- What the program is to do. -/
inductive Mode where
  | serve
  /-- Check files, of which there is at least one. -/
  | check (files : List (List UInt8))
deriving Repr, DecidableEq

/-- What a command line asks for. -/
inductive Request where
  | version
  | run (config : Option (List UInt8)) (mode : Mode)
deriving Repr, DecidableEq

/-- The exit code for arguments that make no sense. -/
def misuseCode : Nat := 2

/-- How to use the command line. -/
def usage : String := "Usage: fu-ls [--config <PATH>] [serve | check <FILE>...]\n"

/-- What an argument is by its look, before any two dashes. -/
inductive Word where
  /-- Two dashes. -/
  | endOfOptions
  | version
  /-- The option for the configuration file, with its value if that is in the same argument. -/
  | config (value : Option (List UInt8))
  | unknownOption
  | plain
deriving Repr, DecidableEq

/-- The dash. -/
def dash : UInt8 := 0x2D

/-- The equals sign. -/
def equals : UInt8 := 0x3D

/-- Whether an argument is an option by its look. A single dash is none. -/
def isOption (arg : List UInt8) : Bool := arg.head? = some dash && arg ≠ [dash]

/-- Tell what an argument is. -/
def Word.ofArg (arg : List UInt8) : Word :=
  let name := arg.takeWhile (· ≠ equals)
  if arg = [dash, dash] then .endOfOptions
  else if ¬ isOption arg then .plain
  else if arg = Text.Utf8.encode "--version" ∨ (Text.Utf8.encode "-V").isPrefixOf arg then
    .version
  else if name = Text.Utf8.encode "--config" then
    .config (if arg = name then none else some (arg.drop (name.length + 1)))
  else .unknownOption

/-- Take the value of an option: its own, or else the next argument. It is neither empty nor an
option. -/
def takeValue (own : Option (List UInt8)) (rest : List (List UInt8)) :
    Option (List UInt8 × List (List UInt8)) :=
  match own, rest with
  | some value, rest => if value = [] then none else some (value, rest)
  | none, value :: rest => if value = [] ∨ isOption value then none else some (value, rest)
  | none, [] => none

/-- Taking a value takes arguments from the front only. -/
theorem length_of_takeValue {own : Option (List UInt8)} {args rest : List (List UInt8)}
    {value : List UInt8} (h : takeValue own args = some (value, rest)) :
    rest.length ≤ args.length := by
  unfold takeValue at h
  split at h
  · split at h <;> simp_all
  · split at h
    · simp at h
    · simp only [Option.some.injEq, Prod.mk.injEq] at h
      rw [← h.2, List.length_cons]
      omega
  · simp at h

/-- Read the arguments behind the word that says what to do: the option's value and the other
arguments, in order. -/
def readOperands (config : Option (List UInt8)) (operands : List (List UInt8))
    (args : List (List UInt8)) : Option (Option (List UInt8) × List (List UInt8)) :=
  match args with
  | [] => some (config, operands.reverse)
  | arg :: rest =>
      match Word.ofArg arg with
      | .endOfOptions => if [] ∈ rest then none else some (config, operands.reverse ++ rest)
      | .config own =>
          match _h : takeValue own rest with
          | some (value, rest') =>
              if config.isSome then none else readOperands (some value) operands rest'
          | none => none
      | .plain => if arg = [] then none else readOperands config (arg :: operands) rest
      | .version => none
      | .unknownOption => none
termination_by args.length
decreasing_by
  · have := length_of_takeValue _h; simp only [List.length_cons]; omega
  · simp

/-- Read the arguments behind a word that says what to do; `config` is the option's value before
it. -/
def readMode (config : Option (List UInt8)) (word : List UInt8) (args : List (List UInt8)) :
    Option Request := do
  let (own, operands) ← readOperands none [] args
  if word = Text.Utf8.encode "serve" ∧ operands = [] then some (.run (own <|> config) .serve)
  else if word = Text.Utf8.encode "check" ∧ operands ≠ [] then
    some (.run (own <|> config) (.check operands))
  else none

/-- Read the arguments of the program, behind an option for the configuration file; `none` if
they make no sense. -/
def readFrom (config : Option (List UInt8)) (args : List (List UInt8)) : Option Request :=
  match args with
  | [] => some (.run config .serve)
  | arg :: rest =>
      match Word.ofArg arg with
      | .endOfOptions => if rest = [] then some (.run config .serve) else none
      | .version => some .version
      | .config own =>
          match _h : takeValue own rest with
          | some (value, rest') => if config.isSome then none else readFrom (some value) rest'
          | none => none
      | .plain => readMode config arg rest
      | .unknownOption => none
termination_by args.length
decreasing_by
  have := length_of_takeValue _h
  simp only [List.length_cons]
  omega

/-- What the arguments of the program ask for; `none` if they make no sense. -/
def read (args : List (List UInt8)) : Option Request := readFrom none args

end DiagServer.CommandLine
