import DiagServer.Check
import DiagServer.CommandLine
import DiagServer.Config.Load
import DiagServer.LogFile
import DiagServer.Server.Serve
import DiagServer.Toolchain

/-!
# The program

From arguments, environment, files and standard input to an exit code, to what is printed, and
to the files in the end. The program opens its log, loads its configuration, finds its compiler,
and then serves or checks. Each failure comes with its causes.
-/

namespace DiagServer

/-- What the program is started with. -/
structure Start where
  args : List (List UInt8) := []
  environment : Environment := {}
  files : FileSystem := {}
  input : List UInt8 := []

/-- How compilers are found and run. -/
structure Programs where
  /-- The path of the program that a command names. -/
  find? : FileSystem → Environment → String → Option (List UInt8)
  /-- How a program is run in an environment. -/
  run? : Environment → Compiler.Runner

/-- What the program leaves behind. -/
structure Result where
  code : Nat
  output : List UInt8 := []
  /-- What failed and what caused it, outermost first; empty if nothing failed. -/
  failure : List String := []
  files : FileSystem

namespace Run

/-- Why the program does not start to serve or to check. -/
inductive SetupError where
  | loading (e : Config.LoadError)
  | noConfig (path : List UInt8)
  /-- There is no front-end in the configuration; with the usual place of that. -/
  | noFrontEnd (path : List UInt8)
  | notFound (command : String)
deriving Repr, DecidableEq

/-- What failed and what caused it, outermost first. -/
def SetupError.chain : SetupError → List String
  | .loading e => e.chain
  | .noConfig path => ["Config file not found: " ++ Text.Utf8.decodeLossy path]
  | .noFrontEnd path =>
      ["No front-end configured. Add a [frontend] section with `command` to "
        ++ Text.Utf8.decodeLossy path]
  | .notFound command => [notFoundMessage command, notFoundCause]

/-- The text for a list of causes; they are numbered from `n` if there are several. -/
def causeLines (numbered : Bool) : Nat → List String → String
  | _, [] => ""
  | n, cause :: causes =>
      (if numbered then "    " ++ toString n ++ ": " else "    ") ++ cause ++ "\n"
        ++ causeLines numbered (n + 1) causes

/-- The text that a failure is printed as. -/
def failureText : List String → String
  | [] => ""
  | [message] => "Error: " ++ message ++ "\n"
  | message :: causes =>
      "Error: " ++ message ++ "\n\nCaused by:\n" ++ causeLines (1 < causes.length) 0 causes

/-- Load the configuration that was asked for, or else the usual one. -/
def configuration (fs : FileSystem) (e : Environment) (asked : Option (List UInt8)) :
    Except SetupError Config :=
  match asked with
  | some path =>
      match Config.loadFrom fs e path with
      | .error e => .error (.loading e)
      | .ok none => .error (.noConfig path)
      | .ok (some c) => .ok c
  | none =>
      match Config.load fs e with
      | .error e => .error (.loading e)
      | .ok c => .ok (c.getD {})

/-- The place to name as that of the configuration file if the environment gives none. -/
def usualPlace : List UInt8 := Text.Utf8.encode "~/.fu/config.toml"

/-- The compiler of a configuration. -/
def compiler (find? : String → Option (List UInt8)) (e : Environment) (c : Config) :
    Except SetupError Compiler :=
  match c.frontEnd with
  | none => .error (.noFrontEnd ((Config.path? e).getD usualPlace))
  | some settings =>
      match Compiler.ofConfig? find? settings with
      | none => .error (.notFound settings.command)
      | some compiler => .ok compiler

/-- The wording for a client that could not be served to its end. -/
def servingFailed : String := "Language server session failed"

/-- Serve the client on the standard streams. -/
def serve {σ π : Type} (f : FrontEnd σ π) (filesOf : σ → FileSystem)
    (settings : Config.Diagnostics) (input : List UInt8) : Result :=
  let served := (Server.new settings.languageId settings.source).serve f {} input
  let output := served.sink.chunks.flatten ++ served.sink.pending
  let files := filesOf (served.server.session.systemFor f)
  match served.ending with
  | .exit e => { code := e.code, output, files }
  | .error e => { code := 1, output, failure := servingFailed :: e.chain, files }

/-- Check files and print their diagnostics. -/
def checkFiles {σ π : Type} (f : FrontEnd σ π) (filesOf : σ → FileSystem)
    (settings : Config.Diagnostics) (paths : List (List UInt8)) : Result :=
  let (c, total) := check f filesOf settings paths
  let output := c.printed.flatMap fun line => Text.Utf8.encode (line ++ "\n")
  let files := filesOf (c.session.systemFor f)
  match total with
  | .error e => { code := 1, output, failure := e.chain, files }
  | .ok total => { code := if total = 0 then 0 else 1, output, files }

/-- Load the configuration and find the compiler: what it takes to serve or to check. -/
def prepare (find? : String → Option (List UInt8)) (fs : FileSystem) (e : Environment)
    (asked : Option (List UInt8)) : Except SetupError (Config.Diagnostics × Compiler) :=
  match configuration fs e asked with
  | .error e => .error e
  | .ok config =>
      match compiler find? e config with
      | .error e => .error e
      | .ok compiler => .ok (config.effective, compiler)

/-- Do what was asked for in one of the two modes. -/
def inMode (programs : Programs) (s : Start) (asked : Option (List UInt8))
    (mode : CommandLine.Mode) : Result :=
  let fs := LogFile.openLog s.files s.environment asked
  match prepare (programs.find? fs s.environment) fs s.environment asked with
  | .error e => { code := 1, failure := e.chain, files := fs }
  | .ok (settings, compiler) =>
      let f := compiler.frontEnd (programs.run? s.environment) fs
      match mode with
      | .serve => serve f Toolchain.files settings s.input
      | .check paths => checkFiles f Toolchain.files settings paths

end Run

/-- Run the program. -/
def run (programs : Programs) (s : Start) : Result :=
  match CommandLine.read s.args with
  | none => { code := CommandLine.misuseCode, files := s.files }
  | some .version =>
      { code := 0
        output := Text.Utf8.encode (Server.name ++ " " ++ Server.version ++ "\n")
        files := s.files }
  | some (.run config mode) => Run.inMode programs s config mode

end DiagServer
