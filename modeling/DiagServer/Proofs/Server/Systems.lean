import DiagServer.Proofs.Server.Run

/-!
# The system is the front-end's own affair

A server hands its front-end the system of the parse before and never looks into it. So it does not
matter what systems are made of: if one front-end works on systems that hold all that the systems
of another are, and more perhaps, then a server with the one goes through the same turns as a server
with the other, ends them the same way and writes the same frames. Every function that a turn is
made of commutes with the map that forgets what the richer systems hold besides.
-/

namespace DiagServer

open DiagServer.Protocol DiagServer.Frame

variable {σ τ π : Type}

/-- A front-end that works as `f` does on the part of its systems that `φ` shows. -/
structure FrontEnd.Refines (g : FrontEnd τ π) (f : FrontEnd σ π) (φ : τ → σ) : Prop where
  newSystem : φ g.newSystem = f.newSystem
  newProgram : g.newProgram = f.newProgram
  name : g.name = f.name
  parse : ∀ (context : ParseContext τ π) (file : String) (input : List UInt8),
    f.parse ⟨φ context.system, context.program⟩ file input =
      (⟨φ (g.parse context file input).1.system, (g.parse context file input).1.program⟩,
        (g.parse context file input).2)

variable {f : FrontEnd σ π} {g : FrontEnd τ π} {φ : τ → σ}

/-! ## Sessions -/

namespace Session

/-- The session whose system is what `φ` shows. -/
def mapSystem (φ : τ → σ) (s : Session τ) : Session σ where
  language := s.language
  system := s.system.map φ
  store := s.store

theorem systemFor_mapSystem (h : g.Refines f φ) (s : Session τ) :
    (s.mapSystem φ).systemFor f = φ (s.systemFor g) := by
  obtain ⟨language, _ | system, store⟩ := s
  · exact h.newSystem.symm
  · rfl

theorem parse_mapSystem (h : g.Refines f φ) (s : Session τ) (d : TextDocument) :
    (s.mapSystem φ).parse f d =
      (⟨φ (s.parse g d).1.system, (s.parse g d).1.program⟩, (s.parse g d).2) := by
  rw [parse, FrontEnd.run_eq, systemFor_mapSystem h, ← h.newProgram, ← h.name]
  exact h.parse ⟨s.systemFor g, g.newProgram⟩ _ _

theorem refresh_mapSystem (h : g.Refines f φ) (s : Session τ) (d : TextDocument) :
    (s.mapSystem φ).refresh f d = (s.refresh g d).mapSystem φ := by
  by_cases hl : d.language = s.language
  · rw [refresh_of_eq hl, refresh_of_eq (s := s.mapSystem φ) hl, diagnose, parse_mapSystem h]
    rfl
  · rw [refresh_of_ne hl, refresh_of_ne (s := s.mapSystem φ) hl]

theorem handle_mapSystem (h : g.Refines f φ) (s : Session τ) (e : EditorEvent) :
    (s.mapSystem φ).handle f e = (s.handle g e).mapSystem φ := by
  cases he : e.document? with
  | some d => rw [handle_of_some he, handle_of_some he, refresh_mapSystem h]
  | none => rw [handle_of_none he, handle_of_none he]

end Session

/-! ## Turns -/

namespace Server

/-- The server whose system is what `φ` shows. -/
def mapSystem (φ : τ → σ) (s : Server τ) : Server σ where
  session := s.session.mapSystem φ
  source := s.source
  documents := s.documents
  phase := s.phase

end Server

/-- The write of the server whose system is what `φ` shows. -/
def Write.mapSystem (φ : τ → σ) (w : Write τ) : Write σ :=
  ⟨w.purpose, w.frame, w.server.mapSystem φ⟩

/-- The step of the server whose system is what `φ` shows. -/
def Step.mapSystem (φ : τ → σ) (t : Step τ) : Step σ :=
  { writes := t.writes.map (Write.mapSystem φ), server := t.server.mapSystem φ, ending := t.ending }

namespace Server

theorem answer_mapSystem (s : Server τ) (id : Json) (method : String) :
    (s.mapSystem φ).answer id method =
      ((s.answer id method).1, (s.answer id method).2.mapSystem φ) := by
  obtain ⟨session, source, documents, phase⟩ := s
  cases phase with
  | awaitingInitialize =>
      by_cases hm : method = "initialize"
      · simp only [answer, mapSystem, if_pos hm]
      · simp only [answer, mapSystem, if_neg hm]
  | running =>
      by_cases hm : method = "initialize"
      · simp only [answer, mapSystem, if_pos hm]
      · by_cases hs : method = "shutdown"
        · simp only [answer, mapSystem, if_neg hm, if_pos hs]
        · simp only [answer, mapSystem, if_neg hm, if_neg hs]
  | shutdownRequested => rfl

theorem notice_mapSystem (h : g.Refines f φ) (s : Server τ) (n : DocumentNotice) :
    (s.mapSystem φ).notice f n = (s.notice g n).mapSystem φ := by
  cases n with
  | opened p =>
      simp only [notice, didOpen, mapSystem, Session.handle_mapSystem h]
  | changed p =>
      have hdocuments : (s.mapSystem φ).documents = s.documents := rfl
      rw [notice, notice, didChange, didChange, hdocuments]
      cases Keyed.find? ⟨p.uri⟩ s.documents with
      | none => rfl
      | some opened =>
          cases newText? p.changes with
          | none => rfl
          | some text => simp only [mapSystem, Session.handle_mapSystem h]
  | closed p => rfl

theorem notify_mapSystem (h : g.Refines f φ) (s : Server τ) (method : String)
    (params : Option Json) :
    (s.mapSystem φ).notify f method params = (s.notify g method params).mapSystem φ := by
  rw [notify, notify]
  by_cases hp : s.phase = .awaitingInitialize
  · rw [if_pos hp, if_pos (show (s.mapSystem φ).phase = _ from hp)]
  · rw [if_neg hp, if_neg (show (s.mapSystem φ).phase ≠ _ from hp)]
    cases DocumentNotice.ofNotification? method params with
    | some n => exact notice_mapSystem h s n
    | none => rfl

theorem publishChanges_mapSystem (s : Server τ) (before : List (Write τ)) :
    (s.mapSystem φ).publishChanges (before.map (Write.mapSystem φ)) =
      (s.publishChanges before).mapSystem φ := by
  simp only [publishChanges, Step.mapSystem, List.map_append, List.map_map]
  rfl

theorem receive_mapSystem (h : g.Refines f φ) (s : Server τ) (v : Json) :
    (s.mapSystem φ).receive f v = (s.receive g v).mapSystem φ := by
  rw [receive, receive]
  split
  · next id method params hm =>
      rw [answer_mapSystem]
      exact publishChanges_mapSystem (s.answer id method).2 [⟨.answer method, _, _⟩]
  · next method params hm =>
      by_cases he : method = "exit"
      · rw [if_pos he, if_pos he]
        rfl
      · rw [if_neg he, if_neg he, notify_mapSystem h]
        exact publishChanges_mapSystem _ []
  · exact publishChanges_mapSystem s []
  · exact publishChanges_mapSystem s []

theorem step_mapSystem (h : g.Refines f φ) (s : Server τ) (o : Outcome) :
    (s.mapSystem φ).step f o = (s.step g o).mapSystem φ := by
  cases o with
  | frame v => exact receive_mapSystem h s v
  | notJson reason => rfl
  | broken e => rfl
  | ended => rfl

/-! ## Runs -/

theorem framesOf_mapSystem (h : g.Refines f φ) (s : Server τ) (o : Outcome) :
    (s.mapSystem φ).framesOf f o = s.framesOf g o := by
  rw [framesOf, framesOf, step_mapSystem h, Step.mapSystem, List.map_map]
  rfl

theorem after_mapSystem (h : g.Refines f φ) (s : Server τ) (os : List Outcome) :
    (s.mapSystem φ).after f os = (s.after g os).mapSystem φ := by
  induction os generalizing s with
  | nil => rfl
  | cons o rest ih =>
      rw [after, List.foldl_cons, step_mapSystem h]
      exact ih (s.step g o).server

theorem framesFor_mapSystem (h : g.Refines f φ) (s : Server τ) (os : List Outcome) :
    (s.mapSystem φ).framesFor f os = s.framesFor g os := by
  induction os generalizing s with
  | nil => rfl
  | cons o rest ih =>
      rw [framesFor, framesFor, framesOf_mapSystem h, step_mapSystem h]
      exact congrArg _ (ih (s.step g o).server)

theorem heard_mapSystem (h : g.Refines f φ) (s : Server τ) (os : List Outcome) :
    (s.mapSystem φ).heard f os = s.heard g os := by
  induction os generalizing s with
  | nil => rfl
  | cons o rest ih =>
      rw [heard, heard, step_mapSystem h]
      simp only [Step.mapSystem, ih]

theorem heardAll_mapSystem (h : g.Refines f φ) (s : Server τ) (inputs : List (List UInt8)) :
    (s.mapSystem φ).heardAll f inputs = s.heardAll g inputs := by
  induction inputs generalizing s with
  | nil => rfl
  | cons input inputs ih =>
      rw [heardAll, heardAll, heard_mapSystem h, after_mapSystem h, ih]

/-- Two servers whose front-ends agree on what the one knows of its systems write the same frames,
however many streams they serve, and end up alike. -/
theorem serveAll_mapSystem (h : g.Refines f φ) (s : Server τ) (inputs : List (List UInt8)) :
    (s.mapSystem φ).serveAll f inputs =
      ((s.serveAll g inputs).1.mapSystem φ, (s.serveAll g inputs).2) := by
  rw [serveAll_eq, serveAll_eq, heardAll_mapSystem h, after_mapSystem h, framesFor_mapSystem h]

end Server

end DiagServer
