import DiagServer.Config.Diagnostics
import DiagServer.Config.FrontEnd
import DiagServer.Toml.Reader

/-!
# Configuration

A configuration is a TOML document with a section for diagnostics and one for the front-end.
Either may be missing, and keys that are no settings are passed over; a setting of the wrong
type is refused.
-/

namespace DiagServer

/-- A configuration. -/
structure Config where
  diagnostics : Option Config.Diagnostics := none
  frontEnd : Option Config.FrontEnd := none
deriving Repr, DecidableEq

namespace Config

/-- Read a setting that may be missing. -/
def setting? {α : Type} (read? : Toml → Option α) : Option Toml → Option (Option α)
  | none => some none
  | some v => (read? v).map some

/-- The settings for diagnostics that a section holds. -/
def Diagnostics.ofToml? (v : Toml) : Option Diagnostics := do
  match ← v.fields? ["language_id", "source", "file_extensions"] with
  | [language, source, extensions] =>
      let draft : Draft := {
        languageId := ← setting? Toml.text? language
        source := ← setting? Toml.text? source
        fileExtensions := ← setting? Toml.texts? extensions }
      some draft.finish
  | _ => none

/-- The settings for the front-end that a section holds. The command must be given. -/
def FrontEnd.ofToml? (v : Toml) : Option FrontEnd := do
  match ← v.fields? ["command", "args"] with
  | [command, args] =>
      some ⟨← (← command).text?, (← setting? Toml.texts? args).getD []⟩
  | _ => none

/-- The configuration that a document holds. -/
def ofToml? (v : Toml) : Option Config := do
  match ← v.fields? ["diagnostics", "frontend"] with
  | [diagnostics, frontEnd] =>
      some ⟨← setting? Diagnostics.ofToml? diagnostics, ← setting? FrontEnd.ofToml? frontEnd⟩
  | _ => none

/-- The configuration that a text holds. -/
def parse (text : String) : Option Config := do ofToml? (← Toml.parse text.toList)

/-- The configuration with the values of the variables it refers to. Only the section for the
front-end can refer to any. -/
def expand (lookup : String → Option String) (c : Config) : Config :=
  { c with frontEnd := c.frontEnd.map (FrontEnd.expand lookup) }

/-- The settings for diagnostics that hold: those given, or else the defaults. -/
def effective (c : Config) : Diagnostics := c.diagnostics.getD {}

end Config

end DiagServer
