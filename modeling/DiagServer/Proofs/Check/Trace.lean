import DiagServer.Check
import DiagServer.Proofs.Session.LastParse
import DiagServer.Proofs.Store.Snapshot

/-!
# A check is told by its parses

A check reads a file, has it parsed, prints what was stored for it and goes on. The lines come from
each parse while the number comes from the store in the end, so the two are told by one list: the
files that were checked, with the parse that was made of each. `trace` makes this list without a
session and without a store. What is printed are the records of all its parses; what is counted are
the reports of those that are the last for their documents.
-/

namespace DiagServer

variable {σ π : Type} {f : FrontEnd σ π} {filesOf : σ → FileSystem}
  {settings : Config.Diagnostics}

/-! ## Records -/

/-- The line for a report on a file: lines and columns count from one, so a zero is shown as one. -/
def Report.record (path : List UInt8) (r : Report) : String :=
  Text.Utf8.decodeLossy path ++ ":" ++ toString (max 1 r.span.startLine.toNat) ++ ":"
    ++ toString (max 1 r.span.startColumn.toNat) ++ ": error: " ++ r.message

theorem Report.display_stored (path : List UInt8) (r : Report) :
    r.stored.display path = r.record path := by
  rw [← Report.toDiagnostic_eq_stored]
  exact Diagnostic.display_ofSpan r.span r.message path

namespace Check

/-! ## The trace -/

/-- A file that was checked: its path as it was given, what was read there, and the parse. -/
structure Checked (σ : Type) where
  path : List UInt8
  document : TextDocument
  parse : Parse σ

def Checked.records (e : Checked σ) : List String := e.parse.reports.map (Report.record e.path)

/-- What is done with the store for a file that was checked. -/
def Checked.publication (e : Checked σ) : Store.Operation :=
  .publish e.document.id (e.parse.reports.map Report.stored)

/-- The files that are checked from a system on, each as the parse before it has left it, and why
the check ends early. -/
def trace (f : FrontEnd σ π) (filesOf : σ → FileSystem) (settings : Config.Diagnostics)
    (start : σ) : List (List UInt8) → List (Checked σ) × Option CheckError
  | [] => ([], none)
  | path :: paths =>
      match settings.languageForExtension? (Path.extension path) with
      | none => trace f filesOf settings start paths
      | some language =>
          match document (filesOf start) language path with
          | .error e => ([], some e)
          | .ok d =>
              let p := f.parseOf start d
              let rest := trace f filesOf settings p.finish paths
              (⟨path, d, p⟩ :: rest.1, rest.2)

variable {path : List UInt8} {paths : List (List UInt8)} {start : σ}

theorem trace_cons_of_none
    (h : settings.languageForExtension? (Path.extension path) = none) :
    trace f filesOf settings start (path :: paths) = trace f filesOf settings start paths := by
  rw [trace, h]

theorem trace_cons_of_error {language : String} {e : CheckError}
    (h : settings.languageForExtension? (Path.extension path) = some language)
    (hd : document (filesOf start) language path = .error e) :
    trace f filesOf settings start (path :: paths) = ([], some e) := by
  rw [trace, h]
  simp only [hd]

theorem trace_cons_of_ok {language : String} {d : TextDocument}
    (h : settings.languageForExtension? (Path.extension path) = some language)
    (hd : document (filesOf start) language path = .ok d) :
    trace f filesOf settings start (path :: paths) =
      let rest := trace f filesOf settings (f.parseOf start d).finish paths
      (⟨path, d, f.parseOf start d⟩ :: rest.1, rest.2) := by
  rw [trace, h]
  simp only [hd]

theorem language_of_document {fs : FileSystem} {language : String} {d : TextDocument}
    (h : document fs language path = .ok d) : d.language = language := by
  rw [document] at h
  split at h
  · cases h
  · split at h
    · cases h
      rfl
    · cases h

/-! ## One file -/

theorem add_session {c : Check σ} {d : TextDocument} (h : d.language = c.session.language)
    (path : List UInt8) :
    (c.add f path d).session = c.session.keep d (f.parseOf (c.session.systemFor f) d) :=
  Session.refresh_eq_keep h

theorem add_printed {c : Check σ} {d : TextDocument} (h : d.language = c.session.language) :
    (c.add f path d).printed =
      c.printed ++ Checked.records ⟨path, d, f.parseOf (c.session.systemFor f) d⟩ := by
  rw [add, Session.refresh_eq_keep h, Checked.records]
  refine congrArg (c.printed ++ ·) ?_
  rw [Store.diagnosticsFor, Session.get?_keep, if_pos rfl, Option.getD_some, List.map_map]
  exact List.map_congr_left fun r _ => Report.display_stored path r

/-! ## The whole check -/

/-- What a check that goes on from here comes to, if these files are checked and it ends so. -/
structure Leads (c : Check σ) (t : List (Checked σ) × Option CheckError)
    (r : Check σ × Option CheckError) : Prop where
  ending : r.2 = t.2
  printed : r.1.printed = c.printed ++ t.1.flatMap Checked.records
  store : r.1.session.store = c.session.store.after (t.1.map Checked.publication)

theorem leads_trace (c : Check σ) (hlanguage : c.session.language = settings.languageId)
    (paths : List (List UInt8)) :
    Leads c (trace f filesOf settings (c.session.systemFor f) paths)
      (files f filesOf settings c paths) := by
  -- for every check, since each file leaves another one to the rest
  induction paths generalizing c with
  | nil => exact ⟨rfl, (List.append_nil _).symm, rfl⟩
  | cons path paths ih =>
      cases hl : settings.languageForExtension? (Path.extension path) with
      | none =>
          rw [trace_cons_of_none hl, files, hl]
          exact ih c hlanguage
      | some language =>
          cases hd : document (filesOf (c.session.systemFor f)) language path with
          | error e =>
              rw [trace_cons_of_error hl hd, files, hl]
              simp only [hd]
              exact ⟨rfl, (List.append_nil _).symm, rfl⟩
          | ok d =>
              have hown : d.language = c.session.language := by
                rw [language_of_document hd, hlanguage]
                rw [Config.Diagnostics.languageForExtension?] at hl
                split at hl
                · exact (Option.some.inj hl).symm
                · cases hl
              have hsession := add_session (f := f) hown path
              have hrest := ih (c.add f path d) (by rw [hsession]; exact hlanguage)
              rw [trace_cons_of_ok hl hd, files, hl]
              simp only [hd]
              rw [hsession] at hrest
              refine ⟨hrest.ending, ?_, ?_⟩
              · rw [hrest.printed, add_printed hown, List.flatMap_cons, List.append_assoc]
                rfl
              · rw [hrest.store, hsession]
                rfl

/-! ## The number of diagnostics -/

/-- The reports of the last parse of a document, none if it was not checked. -/
def lastReports (checked : List (Checked σ)) (id : DocumentId) : List Report :=
  (Keyed.last? id (checked.map fun e => (e.document.id, e.parse.reports))).getD []

/-- The number of reports, where only the last parse of each document counts. -/
def countLast (checked : List (Checked σ)) : Nat :=
  ∑ id ∈ (checked.map (·.document.id)).toFinset, (lastReports checked id).length

/-- What a check with this trace comes to: why it ended early, or the number of diagnostics. -/
def outcome (t : List (Checked σ) × Option CheckError) : Except CheckError Nat :=
  match t.2 with
  | some e => .error e
  | none => .ok (countLast t.1)

section Outcome

variable {t : List (Checked σ) × Option CheckError}

theorem outcome_eq_error {e : CheckError} : outcome t = .error e ↔ t.2 = some e := by
  rw [outcome]
  cases t.2 with
  | none => simp
  | some e' => simp

theorem outcome_eq_ok {n : Nat} : outcome t = .ok n ↔ t.2 = none ∧ countLast t.1 = n := by
  rw [outcome]
  cases t.2 with
  | none => simp
  | some e => simp

end Outcome

variable {checked : List (Checked σ)}

theorem exists_of_lastReports {id : DocumentId} (h : lastReports checked id ≠ []) :
    ∃ e ∈ checked, e.document.id = id ∧ e.parse.reports = lastReports checked id := by
  rw [lastReports] at h ⊢
  cases hlast : Keyed.last? id (checked.map fun e => (e.document.id, e.parse.reports)) with
  | none =>
      rw [hlast] at h
      exact absurd rfl h
  | some reports =>
      obtain ⟨e, he, heq⟩ := List.mem_map.mp (Keyed.mem_of_last? hlast)
      cases heq
      exact ⟨e, he, rfl, rfl⟩

theorem countLast_pos : 0 < countLast checked ↔ ∃ id, lastReports checked id ≠ [] := by
  rw [countLast, Nat.pos_iff_ne_zero, ne_eq, Finset.sum_eq_zero_iff]
  constructor
  · intro h
    by_contra hnone
    refine h fun id _ => ?_
    rw [List.length_eq_zero_iff]
    exact not_not.mp (not_exists.mp hnone id)
  · rintro ⟨id, hid⟩ h
    obtain ⟨e, he, rfl, -⟩ := exists_of_lastReports hid
    refine hid (List.length_eq_zero_iff.mp (h _ ?_))
    exact List.mem_toFinset.mpr (List.mem_map.mpr ⟨e, he, rfl⟩)

theorem publications_map (checked : List (Checked σ)) :
    Store.publications (checked.map Checked.publication) =
      (checked.map fun e => (e.document.id, e.parse.reports)).map
        fun e => (e.1, e.2.map Report.stored) := by
  rw [Store.publications, List.filterMap_map, List.map_map]
  exact congrFun List.filterMap_eq_map' checked

theorem diagnosticsFor_after (checked : List (Checked σ)) (id : DocumentId) :
    (Store.empty.after (checked.map Checked.publication)).diagnosticsFor id =
      (lastReports checked id).map Report.stored := by
  rw [(Store.recalls_after _).diagnosticsFor, Store.lastBatch?, publications_map, Keyed.last?_map,
    lastReports]
  cases Keyed.last? id (checked.map fun e => (e.document.id, e.parse.reports)) with
  | none => rfl
  | some reports => rfl

theorem total_after (checked : List (Checked σ)) :
    (Store.empty.after (checked.map Checked.publication)).snapshot.total = countLast checked := by
  rw [Store.total_eq_sum (Store.nodup_entries_after _) (checked.map (·.document.id)).toFinset,
    countLast]
  · refine Finset.sum_congr rfl fun id _ => ?_
    rw [diagnosticsFor_after, List.length_map]
  · intro id hne
    rw [diagnosticsFor_after, ne_eq, List.map_eq_nil_iff] at hne
    obtain ⟨e, he, rfl, -⟩ := exists_of_lastReports hne
    exact List.mem_toFinset.mpr (List.mem_map.mpr ⟨e, he, rfl⟩)

end Check

/-- What is printed are the records of all parses of the trace, and what is counted are the reports
of the last one of each document. -/
theorem check_eq_trace (f : FrontEnd σ π) (filesOf : σ → FileSystem)
    (settings : Config.Diagnostics) (paths : List (List UInt8)) :
    let t := Check.trace f filesOf settings f.newSystem paths
    (check f filesOf settings paths).1.printed = t.1.flatMap Check.Checked.records ∧
      (check f filesOf settings paths).2 = Check.outcome t := by
  intro t
  have h : Check.Leads { session := { language := settings.languageId } } t
      (Check.files f filesOf settings { session := { language := settings.languageId } } paths) :=
    Check.leads_trace _ rfl paths
  rw [check]
  cases hr : Check.files f filesOf settings { session := { language := settings.languageId } }
      paths with
  | mk c error =>
      rw [hr] at h
      have hending : error = t.2 := h.ending
      have hprinted : c.printed = t.1.flatMap Check.Checked.records := h.printed
      have hstore : c.session.store = Store.empty.after (t.1.map Check.Checked.publication) :=
        h.store
      cases error with
      | some e => exact ⟨hprinted, (Check.outcome_eq_error.mpr hending.symm).symm⟩
      | none =>
          refine ⟨hprinted, (Check.outcome_eq_ok.mpr ⟨hending.symm, ?_⟩).symm⟩
          rw [hstore, Check.total_after]

end DiagServer
