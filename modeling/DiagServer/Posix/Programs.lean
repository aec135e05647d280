import DiagServer.Posix.Shell.Run
import DiagServer.Run

/-!
# The programs at hand

The compilers that can be run are the utilities and the shell. A name without a slash is looked up
in the directories that the environment lists, or in the usual ones if it lists none.
-/

namespace DiagServer.Posix

/-- The name of the variable that lists the directories to look in, with colons between them. -/
def searchVariable : String := "PATH"

/-- The paths where a program may be that is told by its name or its path. -/
def pathsOf (e : Environment) (name : List UInt8) : List (List UInt8) :=
  if name.contains Path.slash then [name]
  else
    let listed := (e.bytes? searchVariable).getD (toBytes Shell.usualDirectories)
    (listed.splitOn 0x3A).map fun directory =>
      if directory = [] ∨ directory.getLast? = some Path.slash then directory ++ name
      else directory ++ Path.slash :: name

/-- The path of the program that a command names. -/
def find? (fs : FileSystem) (e : Environment) (command : String) : Option (List UInt8) :=
  (pathsOf e (Text.Utf8.encode command)).find? fun path => (programAt? fs path).isSome

/-- What a program prints and the files that it leaves, `none` if there is no such program. -/
def run? (e : Environment) : Compiler.Runner := fun fs l => do
  let name ← (pathsOf e l.program).findSome? (programAt? fs)
  let args := l.args.map ofString
  let input := ofBytes l.input
  match utility? name with
  | some utility =>
      some (toBytes (utility { files := fs, input := { text := input } } args).output.text, fs)
  | none =>
      let bindings := e.entries.map fun (name, value) => (ofString name, ofBytes value)
      let (text, fs) := Shell.output fs bindings (ofBytes l.program) args input
      some (toBytes text, fs)

/-- The utilities and the shell. -/
def programs : Programs := { find?, run? }

end DiagServer.Posix
