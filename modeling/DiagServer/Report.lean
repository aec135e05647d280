import DiagServer.Diagnostic
import DiagServer.Json.Record
import DiagServer.Text.Blank

/-!
# Reports

A front-end reports an error as a span and a message, together with the name of the file it was
told it parses. External front-ends print one report a line, as a JSON record; any other line of
their output is noise.
-/

namespace DiagServer

/-- One error as a front-end reports it. -/
structure Report where
  file : String
  span : Span
  message : String
deriving Repr, DecidableEq

/-- The diagnostic that a report stands for. -/
def Report.toDiagnostic (r : Report) : Diagnostic := .ofSpan r.span r.message

namespace Report

open Json

/-- The fields of a report that were read so far. -/
structure Draft where
  file : Option String := none
  startLine : Option UInt32 := none
  startColumn : Option UInt32 := none
  endLine : Option UInt32 := none
  endColumn : Option UInt32 := none
  message : Option String := none

/-- The report of a draft that has all fields. -/
def Draft.finish? (d : Draft) : Option Report := do
  some ⟨← d.file, ⟨← d.startLine, ← d.startColumn, ← d.endLine, ← d.endColumn⟩, ← d.message⟩

/-- The fields of a report in their declared order. -/
def fields : List (RecordField Draft) := [
  .of "filename" true Draft.file (fun d x => { d with file := some x }) readString,
  .of "startLine" true Draft.startLine (fun d x => { d with startLine := some x }) readUInt32,
  .of "startColumn" true Draft.startColumn (fun d x => { d with startColumn := some x })
    readUInt32,
  .of "endLine" true Draft.endLine (fun d x => { d with endLine := some x }) readUInt32,
  .of "endColumn" true Draft.endColumn (fun d x => { d with endColumn := some x }) readUInt32,
  .of "message" true Draft.message (fun d x => { d with message := some x }) readString]

/-- The report on a line of output, if the line holds one. It starts with a brace once the
blanks around it are dropped. -/
def parseLine (line : List Char) : Option Report :=
  match Text.trim line with
  | '{' :: rest =>
      match readWhole (readRecord "ReportLine" fields {}) (Text.Utf8.encodeChars ('{' :: rest)) with
      | .ok draft => draft.finish?
      | .error _ => none
  | _ => none

end Report

end DiagServer
