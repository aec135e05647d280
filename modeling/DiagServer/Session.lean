import DiagServer.FrontEnd
import DiagServer.Store

/-!
# Sessions

A session parses a document whenever the editor says that it came into focus or changed, and
publishes what the parse reported. It builds the front-end's system at the first parse and keeps
it; documents in any language but its own leave it untouched.
-/

namespace DiagServer

/-- What an editor tells about its documents. -/
inductive EditorEvent where
  /-- The focus moved to another editor, or to none. -/
  | activeEditorChanged (document : Option TextDocument)
  | documentChanged (document : TextDocument)
deriving Repr, DecidableEq

/-- The document that an event asks to parse. -/
def EditorEvent.document? : EditorEvent → Option TextDocument
  | .activeEditorChanged d => d
  | .documentChanged d => some d

/-- A session with systems of type `σ`. -/
structure Session (σ : Type) where
  language : String
  /-- The system, once a parse has built it. -/
  system : Option σ := none
  store : Store := .empty

/-- The batch of the reports of one parse. -/
def Batch.ofReports (reports : List Report) : Batch :=
  reports.foldl (fun b r => b.push r.toDiagnostic) .empty

namespace Session

variable {σ π : Type} {m : Type → Type} [Monad m]

/-- The system that the next parse starts from. -/
def systemFor (f : FrontEnd σ π) (s : Session σ) : σ := s.system.getD f.newSystem

/-- Parse a document and publish what is reported, if it is in the session's language. The system
is built if there is none, and then the program. -/
def refreshIn (f : FrontEnd.Effectful m σ π) (s : Session σ) (d : TextDocument) : m (Session σ) :=
  if d.language ≠ s.language then pure s
  else do
    let system ←
      match s.system with
      | some system => pure system
      | none => f.newSystem
    let input := Text.Utf8.encode d.text
    let (context, reports) ← f.run system (f.name d.id) input input.length
    pure { s with
      system := some context.system
      store := s.store.publish d.id (Batch.ofReports reports).toList }

/-- Do what an event asks for. -/
def handleIn (f : FrontEnd.Effectful m σ π) (s : Session σ) (e : EditorEvent) : m (Session σ) :=
  match e.document? with
  | some d => s.refreshIn f d
  | none => pure s

/-- `refreshIn` by a front-end that only returns. -/
def refresh (f : FrontEnd σ π) (s : Session σ) (d : TextDocument) : Session σ :=
  (s.refreshIn f.silent d).run

/-- `handleIn` by a front-end that only returns. -/
def handle (f : FrontEnd σ π) (s : Session σ) (e : EditorEvent) : Session σ :=
  (s.handleIn f.silent e).run

/-- The changes since they were last taken, and the session without them. -/
def drain (s : Session σ) : List (DocumentId × List Diagnostic) × Session σ :=
  let (changes, store) := s.store.drain
  (changes, { s with store })

end Session

end DiagServer
