import DiagServer.Host.Environment

/-!
# Where the configuration is

A variable of the environment may name the configuration file. Otherwise it is a file in a
directory of its own in the home directory.
-/

namespace DiagServer.Config

/-- The variable that names the configuration file. -/
def variableName : String := "FU_LS_CONFIG"

/-- The place of the configuration file in the home directory. -/
def placeAtHome : List UInt8 := Text.Utf8.encode ".fu/config.toml"

/-- The path of the configuration file, if a variable or a home directory gives one. -/
def path? (e : Environment) : Option (List UInt8) :=
  match e.path? variableName with
  | some path => some path
  | none => (e.path? "HOME").map fun home => Path.join home placeAtHome

end DiagServer.Config
