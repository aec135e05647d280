import DiagServer.Config.FrontEnd
import DiagServer.FrontEnd
import DiagServer.Host.FileSystem
import DiagServer.Host.Room
import DiagServer.Text.Lines
import DiagServer.Text.Replace

/-!
# Front-ends that run a compiler

The compiler is run once a parse. It gets the document on its standard input and the name of the
file in its arguments, and every line of its output that holds a report counts; its exit status
does not. A compiler that cannot be started reports nothing. What it does to files the next parse
finds done. How a program is found and run is left to the caller.
-/

namespace DiagServer

/-- A program to run: its path, its arguments and its input. -/
structure Launch where
  program : List UInt8
  args : List String
  input : List UInt8
deriving Repr, DecidableEq

/-- A compiler at a path, with the arguments it is configured with. -/
structure Compiler where
  program : List UInt8
  args : List String
deriving Repr, DecidableEq

/-- The system of a session that runs a compiler. -/
structure Toolchain where
  /-- The path of the compiler. -/
  program : List UInt8
  /-- The files as the compiler left them. -/
  files : FileSystem
  /-- The number of parses. -/
  parses : Nat := 0
deriving Repr

/-- The wording for a command that is not found. -/
def notFoundMessage (command : String) : String :=
  "front-end command `" ++ command ++ "` not found in PATH"

/-- The wording for why it is not found. -/
def notFoundCause : String := "cannot find binary path"

namespace Compiler

/-- What stands for the name of the file in an argument. -/
def placeholder : String := "\x7bfile\x7d"

/-- The compiler that a command names, with the path that `find?` gives for it. -/
def ofConfig? (find? : String → Option (List UInt8)) (c : Config.FrontEnd) : Option Compiler :=
  (find? c.command).map fun program => ⟨program, c.args⟩

/-- The arguments for parsing a file: one for each that is configured, with the name of the file
for each placeholder. -/
def argsFor (c : Compiler) (file : String) : List String :=
  c.args.map fun arg =>
    String.ofList (Text.replace placeholder.toList file.toList arg.toList)

/-- Whether a program can be started at all: neither its path nor an argument holds a zero byte,
and there is room for them. -/
def canStart (l : Launch) : Bool :=
  !l.program.contains 0 && l.args.all (fun arg => !arg.toList.contains '\x00')
    && Host.hasRoomFor l.program.length (l.program.length :: l.args.map String.utf8ByteSize)

/-- The reports in the output of a compiler. -/
def reportsOf (output : List UInt8) : List Report :=
  (Text.lines (Text.Utf8.decodeLossyChars output)).filterMap Report.parseLine

/-- How a program is run: with the files that are there it gives what it prints and the files that
it leaves, or nothing if it cannot be started. -/
abbrev Runner := FileSystem → Launch → Option (List UInt8 × FileSystem)

/-- The front-end that runs a compiler, starting with some files. -/
def frontEnd (run? : Runner) (files : FileSystem) (c : Compiler) : FrontEnd Toolchain Unit where
  newSystem := { program := c.program, files }
  newProgram := ()
  parse context file input :=
    let old := context.system
    let launch : Launch := ⟨old.program, c.argsFor file, input⟩
    let (output, files) :=
      (if canStart launch then run? old.files launch else none).getD ([], old.files)
    ({ context with system := { old with files, parses := old.parses + 1 } }, reportsOf output)

end Compiler

end DiagServer
