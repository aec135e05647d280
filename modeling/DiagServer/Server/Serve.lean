import DiagServer.Frame.Reader
import DiagServer.Frame.Writer
import DiagServer.Server.Basic

/-!
# Serving a stream

Each outcome of reading the stream is one step: it leaves a server, a list of frames to write,
and perhaps an end. After every message the changes in the store are sent, so none is ever
pending while the server waits. Serving writes the frames of each step before the next step; a
frame that is not taken ends it there, with the server as it was when the frame was written.
-/

namespace DiagServer

open DiagServer.Protocol DiagServer.Frame

/-- How a client left. -/
inductive ServerExit where
  /-- An exit after a shutdown that was granted. -/
  | clean
  | withoutShutdown
  /-- The stream ended. -/
  | disconnected
deriving Repr, DecidableEq

/-- The exit code of a process that serves one client. -/
def ServerExit.code : ServerExit → Nat
  | .clean => 0
  | .withoutShutdown => 1
  | .disconnected => 1

/-- What a frame is written for. -/
inductive Purpose where
  | parseError
  | answer (method : String)
  | publish (id : DocumentId)
deriving Repr, DecidableEq

/-- What failed when a frame was not written. -/
def Purpose.message : Purpose → String
  | .parseError => "Failed to write parse error"
  | .answer method => "Failed to answer " ++ method
  | .publish id => "Failed to publish diagnostics for " ++ id.uri

/-- Why serving ended before the client left. -/
inductive ServeError where
  | reading (e : FrameError)
  | writing (purpose : Purpose)
deriving Repr, DecidableEq

/-- What failed and what caused it, outermost first. -/
def ServeError.chain : ServeError → List String
  | .reading e => "Failed to read client message" :: e.chain
  | .writing purpose => purpose.message :: (FrameError.transport .writerClosed).chain

/-- How serving a stream ended. -/
inductive Ending where
  | exit (e : ServerExit)
  | error (e : ServeError)
deriving Repr, DecidableEq

/-- A frame to write, and the server while it is written. -/
structure Write (σ : Type) where
  purpose : Purpose
  frame : Json
  server : Server σ

/-- What an outcome of reading leads to. -/
structure Step (σ : Type) where
  writes : List (Write σ)
  server : Server σ
  ending : Option Ending := none

namespace Server

variable {σ π : Type}

/-- The frame with the diagnostics of a document. -/
def publication (s : Server σ) (change : DocumentId × List Diagnostic) : Json :=
  publishDiagnostics s.source change.1
    ((Keyed.find? change.1 s.documents).map (·.version)) change.2

/-- Send what changed in the store, after the frames written before. -/
def publishChanges (s : Server σ) (before : List (Write σ)) : Step σ :=
  let (changes, session) := s.session.drain
  let s := { s with session }
  { writes := before ++ changes.map fun c => ⟨.publish c.1, s.publication c, s⟩
    server := s }

/-- The exit that a client's leave amounts to. -/
def leave (s : Server σ) : ServerExit :=
  if s.phase = .shutdownRequested then .clean else .withoutShutdown

/-- React to one value that was read. -/
def receive (f : FrontEnd σ π) (s : Server σ) (v : Json) : Step σ :=
  match Message.ofJson? v with
  | some (.request id method _) =>
      let (reply, s) := s.answer id method
      s.publishChanges [⟨.answer method, reply, s⟩]
  | some (.notification method params) =>
      if method = "exit" then { writes := [], server := s, ending := some (.exit s.leave) }
      else (s.notify f method params).publishChanges []
  | some .response => s.publishChanges []
  | none => s.publishChanges []

/-- React to one outcome of reading. -/
def step (f : FrontEnd σ π) (s : Server σ) : Outcome → Step σ
  | .frame v => s.receive f v
  | .notJson reason =>
      { writes := [⟨.parseError, failure .null (.parseError (notJsonMessage reason)), s⟩]
        server := s }
  | .broken e => { writes := [], server := s, ending := some (.error (.reading e)) }
  | .ended => { writes := [], server := s, ending := some (.exit .disconnected) }

/-- What is left when serving ends. -/
structure Served (σ : Type) where
  server : Server σ
  sink : Sink
  ending : Ending

/-- Write the frames of one step, up to the first that is not taken. -/
def deliver (sink : Sink) : List (Write σ) → Sink × Option (Write σ)
  | [] => (sink, none)
  | w :: rest =>
      match sink.put (Frame.encode w.frame) with
      | (true, sink) => deliver sink rest
      | (false, sink) => (sink, some w)

/-- Serve the outcomes of a stream. -/
def serveOutcomes (f : FrontEnd σ π) (s : Server σ) (sink : Sink) : List Outcome → Served σ
  | [] => ⟨s, sink, .exit .disconnected⟩
  | o :: rest =>
      let step := s.step f o
      match deliver sink step.writes with
      | (sink, some w) => ⟨w.server, sink, .error (.writing w.purpose)⟩
      | (sink, none) =>
          match step.ending with
          | some ending => ⟨step.server, sink, ending⟩
          | none => serveOutcomes f step.server sink rest

/-- Serve a stream, writing to a sink. -/
def serve (f : FrontEnd σ π) (s : Server σ) (sink : Sink) (input : List UInt8) : Served σ :=
  serveOutcomes f s sink (outcomes input)

end Server

end DiagServer
