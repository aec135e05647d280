import DiagServer.Proofs.Position
import DiagServer.Proofs.Session.Refresh
import DiagServer.Proofs.Store.History

/-!
# The last parse of a document is what its store holds

Every document in the language of a session is parsed when it is refreshed or when an event names
it, and each parse starts from the system that the one before has left. `parsesOf` is this chain of
parses for a list of documents, made without a session and without a store. What a session stores
for a document are the reports of the last parse of the chain that was made for it; draining in
between and documents in other languages do not show.
-/

namespace DiagServer

variable {σ π : Type} {m : Type → Type} {f : FrontEnd σ π}

/-- A call of a front-end's parser: the system it starts from, the name and the bytes of the file,
the system it leaves and what it reports. -/
structure Parse (σ : Type) where
  start : σ
  file : String
  input : List UInt8
  finish : σ
  reports : List Report

namespace FrontEnd

/-- The parse of a document from a system. -/
def parseOf (f : FrontEnd σ π) (start : σ) (d : TextDocument) : Parse σ :=
  let input := Text.Utf8.encode d.text
  let left := f.parse ⟨start, f.newProgram⟩ (f.name d.id) input
  ⟨start, f.name d.id, input, left.1.system, left.2⟩

/-- The parses of some documents, each from the system that the one before has left. -/
def parsesOf (f : FrontEnd σ π) (start : σ) : List TextDocument → List (TextDocument × Parse σ)
  | [] => []
  | d :: rest => (d, f.parseOf start d) :: parsesOf f (f.parseOf start d).finish rest

theorem map_fst_parsesOf (start : σ) (ds : List TextDocument) :
    (f.parsesOf start ds).map (·.1) = ds := by
  induction ds generalizing start with
  | nil => rfl
  | cons d rest ih => rw [parsesOf, List.map_cons, ih]

theorem run_length (system : σ) (file : String) (input : List UInt8) :
    f.run system file input input.length = f.parse ⟨system, f.newProgram⟩ file input := by
  rw [run_eq, clip_length]

end FrontEnd

/-- The diagnostic that has to be stored for a report: every coordinate is counted from zero, where
a coordinate of zero is taken for one. -/
def Report.stored (r : Report) : Diagnostic where
  range :=
    { start := ⟨max r.span.startLine 1 - 1, max r.span.startColumn 1 - 1⟩
      stop := ⟨max r.span.endLine 1 - 1, max r.span.endColumn 1 - 1⟩ }
  message := r.message

theorem Report.toDiagnostic_eq_stored : toDiagnostic = stored := by
  funext r
  simp only [toDiagnostic, Diagnostic.ofSpan, Span.toRange, lower_eq, stored]

open FrontEnd

namespace Session

/-! ## What a session is asked for -/

/-- What may be asked of a session: to parse a document, to do what an event asks for, or to hand on
its changes. -/
inductive Action where
  | refresh (d : TextDocument)
  | event (e : EditorEvent)
  | drain
deriving Repr, DecidableEq

/-- The document that an action carries. -/
def Action.document? : Action → Option TextDocument
  | .refresh d => some d
  | .event e => e.document?
  | .drain => none

/-- The document that a session of a language parses at an action, if it parses one. -/
def Action.accepted? (language : String) (a : Action) : Option TextDocument :=
  a.document?.filter fun d => d.language = language

/-- The documents that a session of a language parses over some actions. -/
def accepted (language : String) (actions : List Action) : List TextDocument :=
  actions.filterMap (Action.accepted? language)

/-- Do what is asked for. -/
def performIn [Monad m] (f : Effectful m σ π) (s : Session σ) : Action → m (Session σ)
  | .refresh d => s.refreshIn f d
  | .event e => s.handleIn f e
  | .drain => pure s.drain.2

/-- Do what is asked for, one action after the other. -/
def runIn [Monad m] (f : Effectful m σ π) (s : Session σ) (actions : List Action) :
    m (Session σ) :=
  actions.foldlM (performIn f) s

/-- The session that an action leaves. -/
def perform (f : FrontEnd σ π) (s : Session σ) (a : Action) : Session σ :=
  (s.performIn f.silent a).run

/-- The session after some actions. -/
def run (f : FrontEnd σ π) (s : Session σ) (actions : List Action) : Session σ :=
  (s.runIn f.silent actions).run

theorem run_cons (s : Session σ) (a : Action) (rest : List Action) :
    s.run f (a :: rest) = (s.perform f a).run f rest := rfl

/-! ## One action -/

/-- The session that keeps the system of a parse and publishes what the parse has reported. -/
def keep (s : Session σ) (d : TextDocument) (p : Parse σ) : Session σ :=
  { s with
    system := some p.finish
    store := s.store.publish d.id (p.reports.map Report.stored) }

variable {s : Session σ} {a : Action} {d : TextDocument}

theorem refresh_eq_keep (h : d.language = s.language) :
    s.refresh f d = s.keep d (f.parseOf (s.systemFor f) d) := by
  rw [refresh_of_eq h, diagnose, parse, FrontEnd.run_length, Report.toDiagnostic_eq_stored]
  rfl

theorem Action.accepted?_eq_some {language : String} :
    a.accepted? language = some d ↔ a.document? = some d ∧ d.language = language := by
  rw [accepted?, Option.filter_eq_some_iff, decide_eq_true_eq]

theorem Action.accepted?_eq_none {language : String} :
    a.accepted? language = none ↔ ∀ d, a.document? = some d → d.language ≠ language := by
  simp [accepted?, Option.filter_eq_none_iff]

theorem performIn_of_some [Monad m] {g : Effectful m σ π} (h : a.accepted? s.language = some d) :
    s.performIn g a = s.refreshIn g d := by
  obtain ⟨ha, _⟩ := Action.accepted?_eq_some.mp h
  cases a with
  | refresh d' =>
      cases ha
      rfl
  | event e => rw [performIn, handleIn, show e.document? = some d from ha]
  | drain => cases ha

/-- An action that brings a document in the session's language has it parsed from the system that
the session has. -/
theorem perform_of_some (h : a.accepted? s.language = some d) :
    s.perform f a = s.keep d (f.parseOf (s.systemFor f) d) := by
  rw [perform, performIn_of_some h]
  exact refresh_eq_keep (Action.accepted?_eq_some.mp h).2

/-- Any other action forgets what is due, at most. -/
theorem perform_of_none (h : a.accepted? s.language = none) :
    ∃ changed, s.perform f a = { s with store := { s.store with changed } } := by
  rw [Action.accepted?_eq_none] at h
  cases a with
  | refresh d => exact ⟨s.store.changed, refresh_of_ne (h d rfl)⟩
  | event e =>
      refine ⟨s.store.changed, ?_⟩
      cases he : e.document? with
      | some d => exact (handle_of_some he s).trans (refresh_of_ne (h d he))
      | none => exact handle_of_none he s
  | drain => exact ⟨[], rfl⟩

theorem language_run (s : Session σ) (actions : List Action) :
    (s.run f actions).language = s.language := by
  induction actions generalizing s with
  | nil => rfl
  | cons a rest ih =>
      refine (ih (s.perform f a)).trans ?_
      cases ha : a.accepted? s.language with
      | some d =>
          rw [perform_of_some ha]
          rfl
      | none =>
          obtain ⟨changed, h⟩ := perform_of_none (f := f) ha
          rw [h]

/-! ## The last parse -/

/-- What the parses of some documents report, each under the name of its document. -/
def batches (parses : List (TextDocument × Parse σ)) : List (DocumentId × List Diagnostic) :=
  parses.map fun e => (e.1.id, e.2.reports.map Report.stored)

theorem batches_cons (d : TextDocument) (p : Parse σ) (rest : List (TextDocument × Parse σ)) :
    batches ((d, p) :: rest) = (d.id, p.reports.map Report.stored) :: batches rest := rfl

theorem get?_keep (s : Session σ) (d : TextDocument) (p : Parse σ) (u : DocumentId) :
    (s.keep d p).store.get? u =
      if d.id = u then some (p.reports.map Report.stored) else s.store.get? u :=
  Store.get?_publish s.store d.id u _

/-- What a session stores for a document is what the last parse of the document has reported, or
what was there before if none was made. -/
theorem get?_run (s : Session σ) (actions : List Action) (u : DocumentId) :
    (s.run f actions).store.get? u =
      (Keyed.last? u (batches (f.parsesOf (s.systemFor f) (accepted s.language actions)))).or
        (s.store.get? u) := by
  -- from the front, and for every session, since each action leaves another one to the rest
  induction actions generalizing s with
  | nil => rfl
  | cons a rest ih =>
      refine (ih (s.perform f a)).trans ?_
      cases ha : a.accepted? s.language with
      | none =>
          obtain ⟨changed, h⟩ := perform_of_none (f := f) ha
          rw [h, accepted, accepted, List.filterMap_cons_none ha]
          rfl
      | some d =>
          -- this parse counts if none of the rest is for the same document
          rw [perform_of_some ha, get?_keep, accepted, accepted, List.filterMap_cons_some ha,
            FrontEnd.parsesOf, batches_cons, Keyed.last?_cons, Option.or_assoc]
          refine congrArg (Option.or _) ?_
          split
          · rfl
          · rfl

/-- The identities of the batches are those of the documents that were parsed. -/
theorem last?_batches_eq_none (start : σ) (ds : List TextDocument) (u : DocumentId) :
    Keyed.last? u (batches (f.parsesOf start ds)) = none ↔ ∀ d ∈ ds, d.id ≠ u := by
  rw [Keyed.last?_eq_none]
  conv_rhs => rw [← FrontEnd.map_fst_parsesOf (f := f) start ds]
  simp only [batches, List.forall_mem_map]

/-- Whatever a session was asked for: it stores nothing for a document if no document of that name
in its language was brought to it, and otherwise the reports of the last parse that was made for
the name, in their order and each counted from zero. A document in another language, or an event
without a document, leaves all of the session as it is. -/
theorem stores_last_parse (f : FrontEnd σ π) (language : String) (actions : List Action)
    (u : DocumentId) :
    let s : Session σ := run f { language } actions
    let brought := accepted language actions
    (s.store.get? u = none ↔ ∀ d ∈ brought, d.id ≠ u) ∧
      s.store.get? u =
        Keyed.last? u ((f.parsesOf f.newSystem brought).map fun e =>
          (e.1.id, e.2.reports.map fun r =>
            { range :=
                { start := ⟨max r.span.startLine 1 - 1, max r.span.startColumn 1 - 1⟩
                  stop := ⟨max r.span.endLine 1 - 1, max r.span.endColumn 1 - 1⟩ }
              message := r.message })) ∧
      (∀ d, d.language ≠ language → s.refresh f d = s) ∧
      ∀ e, (∀ d, EditorEvent.document? e = some d → d.language ≠ language) → s.handle f e = s := by
  intro s brought
  have hlanguage : s.language = language := language_run _ _
  have hget : s.store.get? u = Keyed.last? u (batches (f.parsesOf f.newSystem brought)) :=
    (get?_run _ actions u).trans (Option.or_none)
  have hforeign : ∀ d, d.language ≠ language → s.refresh f d = s := by
    intro d hd
    rw [← hlanguage] at hd
    exact refresh_of_ne hd
  refine ⟨?_, hget, hforeign, fun e he => ?_⟩
  · rw [hget, last?_batches_eq_none]
  · cases hd : e.document? with
    | some d => exact (handle_of_some hd s).trans (hforeign d (he d hd))
    | none => exact handle_of_none hd s

end Session

end DiagServer
