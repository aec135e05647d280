import DiagServer.Proofs.Keyed
import DiagServer.Session

/-!
# What a parse leaves in a session

A session that parses a document keeps the system which the parse leaves and publishes one batch:
the reports of this parse, in their order and under the document's name. Everything that a session
is asked for comes down to this or leaves the session as it is.
-/

namespace DiagServer

variable {σ π : Type} {f : FrontEnd σ π}

/-! ## Front-ends -/

namespace FrontEnd

/-- What the front-end reports of a file depends on its name and its bytes only, not on what
earlier parses left in the system. -/
def Reports (f : FrontEnd σ π) (report : String → List UInt8 → List Report) : Prop :=
  ∀ context file input, (f.parse context file input).2 = report file input

/-- The front-end that keeps nothing between two parses. -/
def memoryless (report : String → List UInt8 → List Report) : FrontEnd Unit Unit where
  newSystem := ()
  newProgram := ()
  parse := fun context file input => (context, report file input)

theorem memoryless_reports (report : String → List UInt8 → List Report) :
    (memoryless report).Reports report := fun _ _ _ => rfl

theorem Reports.run {report : String → List UInt8 → List Report} (h : f.Reports report)
    (system : σ) (file : String) (input : List UInt8) :
    (f.run system file input input.length).2 = report file input := by
  rw [run_eq, h, clip_length]

end FrontEnd

/-! ## Sessions -/

theorem Batch.toList_foldl_push (reports : List Report) (b : Batch) :
    (reports.foldl (fun b r => b.push r.toDiagnostic) b).toList =
      b.toList ++ reports.map Report.toDiagnostic := by
  induction reports generalizing b with
  | nil => simp
  | cons r rest ih =>
      rw [List.foldl_cons, ih, List.map_cons]
      simp [Batch.toList, Batch.push]

theorem Batch.toList_ofReports (reports : List Report) :
    (Batch.ofReports reports).toList = reports.map Report.toDiagnostic := by
  rw [Batch.ofReports, Batch.toList_foldl_push]
  rfl

namespace Session

/-- What a parse of a document gives: the context it leaves and its reports. -/
def parse (f : FrontEnd σ π) (s : Session σ) (d : TextDocument) : ParseContext σ π × List Report :=
  f.run (s.systemFor f) (f.name d.id) (Text.Utf8.encode d.text) (Text.Utf8.encode d.text).length

/-- The diagnostics of a parse of a document. -/
def diagnose (f : FrontEnd σ π) (s : Session σ) (d : TextDocument) : List Diagnostic :=
  (s.parse f d).2.map Report.toDiagnostic

theorem diagnose_of_reports {report : String → List UInt8 → List Report} (h : f.Reports report)
    (s : Session σ) (d : TextDocument) :
    s.diagnose f d =
      (report (f.name d.id) (Text.Utf8.encode d.text)).map Report.toDiagnostic := by
  rw [diagnose, parse, h.run]

theorem refresh_of_ne {s : Session σ} {d : TextDocument} (h : d.language ≠ s.language) :
    s.refresh f d = s := by
  rw [refresh, refreshIn, if_pos h]
  rfl

theorem refresh_of_eq {s : Session σ} {d : TextDocument} (h : d.language = s.language) :
    s.refresh f d =
      { s with
        system := some (s.parse f d).1.system
        store := s.store.publish d.id (s.diagnose f d) } := by
  rw [refresh, refreshIn, if_neg (fun hn => hn h), diagnose, ← Batch.toList_ofReports]
  -- the system is there or is built, and either is the one to start from
  obtain ⟨language, _ | system, store⟩ := s
  · rfl
  · rfl

theorem handle_of_some {e : EditorEvent} {d : TextDocument} (h : e.document? = some d)
    (s : Session σ) : s.handle f e = s.refresh f d := by
  rw [handle, handleIn, h]
  rfl

theorem handle_of_none {e : EditorEvent} (h : e.document? = none) (s : Session σ) :
    s.handle f e = s := by
  rw [handle, handleIn, h]
  rfl

/-- The session after a document was parsed and what the parse published was taken. -/
def parsed (f : FrontEnd σ π) (s : Session σ) (d : TextDocument) : Session σ :=
  { s with
    system := some (s.parse f d).1.system
    store := { entries := Keyed.put d.id (s.diagnose f d) s.store.entries } }

theorem get?_parsed (s : Session σ) (d : TextDocument) (u : DocumentId) :
    (s.parsed f d).store.get? u =
      if d.id = u then some (s.diagnose f d) else s.store.get? u :=
  Keyed.find?_put d.id u (s.diagnose f d) s.store.entries

theorem drain_settled {s : Session σ} (h : s.store.changed = []) : s.drain = ([], s) := by
  obtain ⟨language, system, ⟨entries, changed⟩⟩ := s
  subst h
  rfl

/-- What a parse publishes is all there is to take if nothing was pending before. -/
theorem drain_refresh {s : Session σ} {d : TextDocument} (h : s.store.changed = [])
    (hl : d.language = s.language) :
    (s.refresh f d).drain = ([(d.id, s.diagnose f d)], s.parsed f d) := by
  rw [refresh_of_eq hl]
  have hchanged : (s.store.publish d.id (s.diagnose f d)).changed = [d.id] := by
    simp [Store.publish, h]
  have hget : (s.store.publish d.id (s.diagnose f d)).diagnosticsFor d.id = s.diagnose f d := by
    rw [Store.diagnosticsFor, Store.get?, Store.publish, Keyed.find?_put_self]
    rfl
  simp only [drain, Store.drain, hchanged, List.map_cons, List.map_nil, hget]
  rfl

end Session

end DiagServer
