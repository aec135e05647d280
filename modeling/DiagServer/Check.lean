import DiagServer.Config.Diagnostics
import DiagServer.Host.FileSystem
import DiagServer.Session

/-!
# Checking files

The files at the given paths are parsed in one session, in order, and each diagnostic of a file
is printed as soon as the file is parsed, under the path as it was given. A path whose extension
is not one of the language's is passed over without a look at the file. A file is read as the
parses before it left it. The first file that cannot be read ends the check; what was printed
before it stays.
-/

namespace DiagServer

/-- Why a check ended early. -/
inductive CheckError where
  | unreadable (path : List UInt8) (cause : FileError)
  /-- The path cannot be made into an identity. -/
  | noIdentity (path : List UInt8)
deriving Repr, DecidableEq

/-- What failed and what caused it, outermost first. -/
def CheckError.chain : CheckError → List String
  | .unreadable path cause => ["Failed to read " ++ Text.Utf8.decodeLossy path, cause.message]
  | .noIdentity path => [noIdentityMessage path]

/-- A check so far: its session, and the lines that were printed. -/
structure Check (σ : Type) where
  session : Session σ
  printed : List String := []

namespace Check

variable {σ π : Type}

/-- The document at a path. -/
def document (fs : FileSystem) (language : String) (path : List UInt8) :
    Except CheckError TextDocument :=
  match fs.readText path with
  | .error cause => .error (.unreadable path cause)
  | .ok text =>
      match (fs.absolute? path).bind DocumentId.ofPath? with
      | some id => .ok ⟨id, language, text⟩
      | none => .error (.noIdentity path)

/-- Parse a document and print its diagnostics under a path. -/
def add (f : FrontEnd σ π) (c : Check σ) (path : List UInt8) (d : TextDocument) : Check σ :=
  let session := c.session.refresh f d
  { session
    printed := c.printed ++ (session.store.diagnosticsFor d.id).map (·.display path) }

/-- Check the files at some paths, up to the first that cannot be read. `filesOf` tells which files
are there with a system. -/
def files (f : FrontEnd σ π) (filesOf : σ → FileSystem) (settings : Config.Diagnostics)
    (c : Check σ) : List (List UInt8) → Check σ × Option CheckError
  | [] => (c, none)
  | path :: paths =>
      match settings.languageForExtension? (Path.extension path) with
      | none => files f filesOf settings c paths
      | some language =>
          match document (filesOf (c.session.systemFor f)) language path with
          | .error e => (c, some e)
          | .ok d => files f filesOf settings (c.add f path d) paths

end Check

/-- Check the files at some paths: the check in the end, and the number of diagnostics unless it
ended early. -/
def check {σ π : Type} (f : FrontEnd σ π) (filesOf : σ → FileSystem)
    (settings : Config.Diagnostics) (paths : List (List UInt8)) :
    Check σ × Except CheckError Nat :=
  let (c, error) := Check.files f filesOf settings
    { session := { language := settings.languageId } } paths
  match error with
  | some e => (c, .error e)
  | none => (c, .ok c.session.store.snapshot.total)

end DiagServer
