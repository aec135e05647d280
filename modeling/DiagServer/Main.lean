import DiagServer.Posix.Programs

/-!
# The command

The program on a real machine. Everything it may look at is looked at before it starts: the
arguments, the environment, and what stands under the paths that the configuration, the log and
the files to check can have. The outcome is then printed and written back. Only serving differs,
since a client waits for each answer: there the input is read frame by frame, no further than
the next frame needs.
-/

namespace DiagServer.Command

/-- The environment in a block of settings, each of which ends with a zero byte. -/
def environmentOfBlock (block : List UInt8) : Environment :=
  ⟨(block.splitOn 0).filterMap fun setting =>
    let name := setting.takeWhile (· ≠ CommandLine.equals)
    (Text.Utf8.decode? name).map fun text => (text, setting.drop (name.length + 1))⟩

/-- The paths that a request makes the program look at, apart from those that lead to them. -/
def lookedAt (e : Environment) : CommandLine.Request → List (List UInt8)
  | .version => []
  | .run config mode =>
      let files := match mode with
        | .serve => []
        | .check files => files
      ((config <|> Config.path? e).toList ++ LogFile.candidates e config) ++ files

/-- Whether an outcome is only due to the input not being there yet. A character may be cut off
unless the line feed of its line was received. -/
def awaitsInput (received : List UInt8) : Frame.Outcome → Bool
  | .ended => true
  | .broken .truncatedHeaders => true
  | .broken (.transport .earlyEnd) => true
  | .broken (.transport (.notUtf8 _)) => !Frame.isWhole received
  | _ => false

/-- How many bytes to wait for behind those received: one at a time in a header block, and then
the whole body. -/
def wanted (received : List UInt8) : Nat :=
  match Frame.readHeader received with
  | .ok (length, rest) => length - rest.length
  | .error _ => 1

/-- The environment of the process. -/
def environment : IO Environment := do
  try
    return environmentOfBlock (← IO.FS.readBinFile "/proc/self/environ").toList
  catch _ => return {}

/-- Add what stands under a path to what is known of the files. -/
def look (fs : FileSystem) (path : List UInt8) : IO FileSystem := do
  match fs.resolve path, Text.Utf8.decode? path with
  | .ok place, some name =>
      if ← (System.mkFilePath [name]).isDir then return fs.addDirectory place
      try return fs.addFile place (← IO.FS.readBinFile name).toList
      catch _ => return fs
  | _, _ => return fs

/-- The files as far as a request makes the program look at them. -/
def filesFor (e : Environment) (request : CommandLine.Request) : IO FileSystem := do
  let current := Path.components (Text.Utf8.encode (toString (← IO.currentDir)))
  let fs := { Posix.standingFiles with current }.addDirectory current
  ((lookedAt e request).flatMap FileSystem.leadingTo).foldlM look fs

/-- Make the files and directories that are not there as they were before. -/
def writeBack (before after : FileSystem) : IO Unit := do
  for (components, entry) in after.entries do
    if before.entry? components ≠ some entry then
      let name := Text.Utf8.decodeLossy (Path.ofComponents components)
      try
        match entry with
        | .directory => IO.FS.createDirAll name
        | .file bytes => IO.FS.writeBinFile name ⟨bytes.toArray⟩
      catch _ => pure ()

/-- Print what failed, if anything did, and give the exit code. -/
def finish (code : Nat) (failure : List String) : IO UInt32 := do
  (← IO.getStderr).putStr (Run.failureText failure)
  return UInt32.ofNat code

/-- Write the frames of one step, each before the next; the result is the first that was not
taken. -/
def send {σ : Type} (output : IO.FS.Stream) : List (Write σ) → IO (Option (Write σ))
  | [] => return none
  | w :: rest => do
      let written ← try
          output.write ⟨(Frame.encode w.frame).toArray⟩
          output.flush
          pure true
        catch _ => pure false
      if written then send output rest else return some w

/-- Serve a client whose frames come as they may, with some bytes of its input received; the result
is the server in the end, and how it ended. -/
partial def converse {σ π : Type} (f : FrontEnd σ π) (input output : IO.FS.Stream)
    (server : Server σ) (received : List UInt8) : IO (Server σ × Ending) := do
  let (outcome, rest) := Frame.read received
  if awaitsInput received outcome then
    let more ← input.read (USize.ofNat (wanted received))
    unless more.isEmpty do
      return ← converse f input output server (received ++ more.toList)
  let step := server.step f outcome
  match ← send output step.writes with
  | some w => return (step.server, .error (.writing w.purpose))
  | none =>
      match step.ending with
      | some ending => return (step.server, ending)
      | none => converse f input output step.server rest

/-- Serve the client on the standard streams. -/
def serve (start : Start) (asked : Option (List UInt8)) : IO UInt32 := do
  let fs := LogFile.openLog start.files start.environment asked
  writeBack start.files fs
  match Run.prepare (Posix.programs.find? fs start.environment) fs start.environment asked with
  | .error e => finish 1 e.chain
  | .ok (settings, compiler) =>
      let f := compiler.frontEnd (Posix.programs.run? start.environment) fs
      let (server, ending) ← converse f (← IO.getStdin) (← IO.getStdout)
        (.new settings.languageId settings.source) []
      writeBack fs (server.session.systemFor f).files
      match ending with
      | .exit e => finish e.code []
      | .error e => finish 1 (Run.servingFailed :: e.chain)

/-- Run the program with its arguments. -/
def runWith (args : List String) : IO UInt32 := do
  let args := args.map Text.Utf8.encode
  let environment ← environment
  match CommandLine.read args with
  | none =>
      (← IO.getStderr).putStr CommandLine.usage
      return UInt32.ofNat CommandLine.misuseCode
  | some request =>
      let files ← filesFor environment request
      let start : Start := { args, environment, files }
      match request with
      | .run asked .serve => serve start asked
      | _ =>
          let result := run Posix.programs start
          (← IO.getStdout).write ⟨result.output.toArray⟩
          writeBack files result.files
          finish result.code result.failure

end DiagServer.Command

/-- Serve a client or check files, as the arguments say. -/
def main (args : List String) : IO UInt32 := DiagServer.Command.runWith args
