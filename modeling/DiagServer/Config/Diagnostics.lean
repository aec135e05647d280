import DiagServer.Json.Record

/-!
# Settings for diagnostics

Which language is parsed, what label its diagnostics carry, and which file extensions hold it.
Every setting has a default.
-/

namespace DiagServer.Config

open Json

/-- Settings for diagnostics. -/
structure Diagnostics where
  languageId : String := "fu"
  /-- The label on every diagnostic. -/
  source : String := "fu"
  /-- The extensions of files in the language, without the dot. -/
  fileExtensions : List String := ["fu"]
deriving Repr, DecidableEq

namespace Diagnostics

/-- The language of files with an extension, if it is one of the settings' own. -/
def languageForExtension? (c : Diagnostics) (ext : String) : Option String :=
  if ext ∈ c.fileExtensions then some c.languageId else none

/-- The settings that were read so far. -/
structure Draft where
  languageId : Option String := none
  source : Option String := none
  fileExtensions : Option (List String) := none

/-- The settings, with the default for each that was not given. -/
def Draft.finish (d : Draft) : Diagnostics where
  languageId := d.languageId.getD "fu"
  source := d.source.getD "fu"
  fileExtensions := d.fileExtensions.getD ["fu"]

/-- The settings in their declared order. -/
def fields : List (RecordField Draft) := [
  .of "language_id" false Draft.languageId (fun d x => { d with languageId := some x }) readString,
  .of "source" false Draft.source (fun d x => { d with source := some x }) readString,
  .of "file_extensions" false Draft.fileExtensions
    (fun d x => { d with fileExtensions := some x }) readStrings]

/-- Read settings from JSON text. -/
def read (bs : List UInt8) : Read Diagnostics :=
  Read.map Draft.finish (readRecord "DiagnosticsConfig" fields {} bs)

end Diagnostics

end DiagServer.Config
