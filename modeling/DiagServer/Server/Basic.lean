import DiagServer.Keyed
import DiagServer.Protocol.Params
import DiagServer.Protocol.Publish
import DiagServer.Session

/-!
# The language server

A server waits to be initialized, runs, and after a shutdown waits for the end; it never goes
back. Requests are answered by the phase and the method alone and change nothing but the phase.
Notifications about documents keep the open documents up to date and drive the session. Closing
a document leaves its diagnostics as they were.
-/

namespace DiagServer

open Protocol

/-- Where a server stands between its first request and its end. -/
inductive Phase where
  | awaitingInitialize
  | running
  | shutdownRequested
deriving Repr, DecidableEq

/-- A document that the client has open. -/
structure OpenDocument where
  document : TextDocument
  version : Int
deriving Repr, DecidableEq

/-- A server whose front-end has systems of type `σ`. -/
structure Server (σ : Type) where
  session : Session σ
  /-- The label on every diagnostic that is sent. -/
  source : String
  documents : List (DocumentId × OpenDocument) := []
  phase : Phase := .awaitingInitialize

namespace Server

variable {σ π : Type}

/-- The server's name. -/
def name : String := "fu-ls"

/-- The server's version. -/
def version : String := "0.1.0"

/-- A server that nothing was sent to yet. -/
def new (language source : String) : Server σ := { session := { language }, source }

/-- Answer a request. -/
def answer (s : Server σ) (id : Json) (method : String) : Json × Server σ :=
  match s.phase with
  | .awaitingInitialize =>
      if method = "initialize" then
        (success id (initializeResult name version), { s with phase := .running })
      else (failure id .notInitialized, s)
  | .running =>
      if method = "initialize" then (failure id .alreadyInitialized, s)
      else if method = "shutdown" then
        (success id .null, { s with phase := .shutdownRequested })
      else (failure id (.methodNotFound method), s)
  | .shutdownRequested => (failure id .shuttingDown, s)

/-- Parse a document that was opened, and keep track of it. -/
def didOpen (f : FrontEnd σ π) (s : Server σ) (p : DidOpen) : Server σ :=
  let document : TextDocument := ⟨⟨p.uri⟩, p.language, p.text⟩
  { s with
    session := s.session.handle f (.activeEditorChanged (some document))
    documents := Keyed.put document.id ⟨document, p.version⟩ s.documents }

/-- The text that a list of changes leaves: that of the last change. There is none if the list
is empty or if a change replaces a part only. -/
def newText? (changes : List ContentChange) : Option String :=
  if changes.any (·.isPartial) then none else changes.getLast?.map (·.text)

/-- Take over the new text of a document that is open, and parse it. -/
def didChange (f : FrontEnd σ π) (s : Server σ) (p : DidChange) : Server σ :=
  match Keyed.find? ⟨p.uri⟩ s.documents, newText? p.changes with
  | some opened, some text =>
      let document := opened.document.setText text
      { s with
        session := s.session.handle f (.documentChanged document)
        documents := Keyed.put ⟨p.uri⟩ ⟨document, p.version⟩ s.documents }
  | _, _ => s

/-- Forget that a document is open. -/
def didClose (s : Server σ) (p : DidClose) : Server σ :=
  { s with documents := Keyed.erase ⟨p.uri⟩ s.documents }

/-- Take in what the client says about a document. -/
def notice (f : FrontEnd σ π) (s : Server σ) : DocumentNotice → Server σ
  | .opened p => s.didOpen f p
  | .changed p => s.didChange f p
  | .closed p => s.didClose p

/-- Take in a notification; before the server is initialized none counts. -/
def notify (f : FrontEnd σ π) (s : Server σ) (method : String) (params : Option Json) :
    Server σ :=
  if s.phase = .awaitingInitialize then s
  else
    match DocumentNotice.ofNotification? method params with
    | some n => s.notice f n
    | none => s

end Server

end DiagServer
