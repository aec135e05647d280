import DiagServer.Diagnostic
import DiagServer.Document
import DiagServer.Keyed

/-!
# The store of published diagnostics

For each document the store holds the diagnostics of its latest parse, and it remembers which
documents were published since they were last drained, each once, in the order of their first
publication. Publishing replaces, it never appends.
-/

namespace DiagServer

/-- The latest diagnostics of every document, and the documents that are due to be sent. -/
structure Store where
  entries : List (DocumentId × List Diagnostic) := []
  changed : List DocumentId := []
deriving Repr, DecidableEq

namespace Store

/-- The store of a new session. -/
def empty : Store := {}

/-- Replace the diagnostics of a document, and note that it changed. -/
def publish (s : Store) (id : DocumentId) (items : List Diagnostic) : Store where
  entries := Keyed.put id items s.entries
  changed := if id ∈ s.changed then s.changed else s.changed ++ [id]

/-- The diagnostics last published for a document, if there ever were any or none. -/
def get? (s : Store) (id : DocumentId) : Option (List Diagnostic) := Keyed.find? id s.entries

/-- The diagnostics of a document, none if it was never published. -/
def diagnosticsFor (s : Store) (id : DocumentId) : List Diagnostic := (s.get? id).getD []

/-- The documents that have diagnostics, in the order of their names. -/
structure Snapshot where
  files : List (DocumentId × List Diagnostic)
deriving Repr, DecidableEq

/-- Whether no document has diagnostics. -/
def Snapshot.isEmpty (s : Snapshot) : Bool := s.files.isEmpty

/-- The number of diagnostics of all documents. -/
def Snapshot.total (s : Snapshot) : Nat := (s.files.flatMap fun f => f.2).length

/-- What there is to show now. -/
def snapshot (s : Store) : Snapshot where
  files := (s.entries.filter fun e => !e.2.isEmpty).mergeSort fun a b => (compare a.1 b.1).isLE

/-- The documents published since the last drain with the diagnostics they have now, and the
store with nothing due. -/
def drain (s : Store) : List (DocumentId × List Diagnostic) × Store :=
  (s.changed.map fun id => (id, s.diagnosticsFor id), { s with changed := [] })

end Store

end DiagServer
