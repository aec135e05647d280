import DiagServer.Protocol.Message
import DiagServer.SourceJson
import DiagServer.Diagnostic

/-!
# Publishing diagnostics

The diagnostics of a document go to the client as one notification, which replaces whatever the
client showed for the document before.
-/

namespace DiagServer.Protocol

/-- The severity of errors. -/
def severityError : Int := 1

/-- A diagnostic as the client gets it. -/
def diagnosticJson (source : String) (d : Diagnostic) : Json :=
  .object [("range", d.range.toJson), ("severity", .int severityError), ("source", .str source),
    ("message", .str d.message)]

/-- The notification with the diagnostics of a document, and its version if it is open. -/
def publishDiagnostics (source : String) (id : DocumentId) (version : Option Int)
    (items : List Diagnostic) : Json :=
  .object [("jsonrpc", .str Protocol.version), ("method", .str "textDocument/publishDiagnostics"),
    ("params", .object (
      [("uri", .str id.uri)]
        ++ (match version with
            | some v => [("version", .int v)]
            | none => [])
        ++ [("diagnostics", .arr (items.map (diagnosticJson source)))]))]

end DiagServer.Protocol
