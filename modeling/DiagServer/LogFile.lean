import DiagServer.Config.Location
import DiagServer.Host.FileSystem

/-!
# The log file

The log is kept beside the configuration file, or else in a directory where the program was
started. A place counts if the directories that lead to it can be made and a file in it can be
written to; if none does there is no log file.
-/

namespace DiagServer.LogFile

/-- The log file's place in a directory. -/
def place : List UInt8 := Text.Utf8.encode "logs/fu-ls.log"

/-- The directory that keeps the log if the configuration has none. -/
def fallback : List UInt8 := Text.Utf8.encode ".fu"

/-- The paths where the log file may be, the best first. `config` is the configuration file that
was asked for. -/
def candidates (e : Environment) (config : Option (List UInt8)) : List (List UInt8) :=
  let beside := ((config <|> Config.path? e).bind Path.parent?).filter (· ≠ [])
  (beside.toList ++ [fallback]).map fun dir => Path.join dir place

/-- Open the log file at the first path where that can be. -/
def openFirst (fs : FileSystem) : List (List UInt8) → FileSystem
  | [] => fs
  | path :: paths =>
      let (fs, made) := fs.makeDirectories ((Path.parent? path).getD [])
      match if made then fs.openToAppend path else none with
      | some fs => fs
      | none => openFirst fs paths

/-- Open the log file. -/
def openLog (fs : FileSystem) (e : Environment) (config : Option (List UInt8)) : FileSystem :=
  openFirst fs (candidates e config)

end DiagServer.LogFile
