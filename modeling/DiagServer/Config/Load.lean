import DiagServer.Config.Basic
import DiagServer.Config.Location
import DiagServer.Host.FileSystem

/-!
# Loading the configuration

A configuration file that does not exist is no failure: there is no configuration then. One that
exists but cannot be read, or that holds no configuration, is a failure.
-/

namespace DiagServer.Config

/-- Why a configuration was not loaded. -/
inductive LoadError where
  | unreadable (path : List UInt8) (cause : FileError)
  | malformed (path : List UInt8)
deriving Repr, DecidableEq

namespace LoadError

/-- The file that was not loaded. -/
def path : LoadError → List UInt8
  | .unreadable path _ => path
  | .malformed path => path

/-- The wording of what caused a failure. What is wrong with a document is not told. -/
def causeMessage : LoadError → String
  | .unreadable _ cause => cause.message
  | .malformed _ => "TOML parse error"

/-- The wording of a failure. -/
def message (e : LoadError) : String :=
  let failure :=
    match e with
    | .unreadable .. => "failed to read config at "
    | .malformed _ => "failed to parse config at "
  failure ++ Text.Utf8.decodeLossy e.path ++ ": " ++ e.causeMessage

/-- What failed and what caused it, outermost first. -/
def chain (e : LoadError) : List String := [e.message, e.causeMessage]

end LoadError

/-- Load the configuration file at a path, if there is one. -/
def loadFrom (fs : FileSystem) (e : Environment) (path : List UInt8) :
    Except LoadError (Option Config) :=
  if fs.exists? path then
    match fs.readText path with
    | .error cause => .error (.unreadable path cause)
    | .ok text =>
        match parse text with
        | none => .error (.malformed path)
        | some c => .ok (some (c.expand e.text?))
  else .ok none

/-- Load the configuration file at its usual place, if there is one. -/
def load (fs : FileSystem) (e : Environment) : Except LoadError (Option Config) :=
  match path? e with
  | some path => loadFrom fs e path
  | none => .ok none

end DiagServer.Config
