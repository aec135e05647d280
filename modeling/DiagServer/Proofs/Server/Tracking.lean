import DiagServer.Proofs.Position
import DiagServer.Proofs.Server.Lifecycle
import Mathlib.Data.List.Forall2

/-!
# Open documents as the notices tell

What a server tracks of a document can be read off the notices alone, without running a server.
The document is open if the last notice that opens or closes it opens it; its language is the one
it was opened with, and its text and version are those of the last change since then that replaces
the whole text, or of the opening if there is none. `Describes` is this account of a list of
notices, and each rule of `Reaction` extends it by the notice of its turn.

A front-end whose reports depend on the file alone has reported the tracked text of every document
in the configured language, and these reports are what the store holds. Documents in other
languages are tracked too, but the store may hold what was reported before their language changed.
-/

namespace DiagServer

open DiagServer.Protocol DiagServer.Frame

namespace Protocol.DocumentNotice

/-- Whether a notice opens or closes the document. -/
def opensOrCloses (u : DocumentId) : DocumentNotice → Bool
  | .opened p => p.uri = u.uri
  | .changed _ => false
  | .closed p => p.uri = u.uri

/-- The text and the version that a notice gives to the document if it is open. A change counts if
all its changes, of which there is one at least, replace the whole text; the last one holds. -/
def accepted? (u : DocumentId) : DocumentNotice → Option (String × Int)
  | .changed p =>
      if p.uri = u.uri ∧ ∀ c ∈ p.changes, c.isPartial = false then
        p.changes.getLast?.map fun c => (c.text, p.version)
      else none
  | _ => none

variable {u : DocumentId}

theorem accepted?_changed_eq_some {p : DidChange} {text : String} (hu : p.uri = u.uri)
    (ht : Server.newText? p.changes = some text) :
    accepted? u (.changed p) = some (text, p.version) := by
  obtain ⟨hw, c, hc, rfl⟩ := Server.newText?_eq_some.mp ht
  rw [accepted?, if_pos ⟨hu, hw⟩, hc]
  rfl

theorem accepted?_changed_eq_none {p : DidChange}
    (h : p.uri ≠ u.uri ∨ Server.newText? p.changes = none) : accepted? u (.changed p) = none := by
  rw [accepted?]
  split
  · next hw =>
      rw [Option.map_eq_none_iff]
      cases hc : p.changes.getLast? with
      | none => rfl
      | some c =>
          have ht := Server.newText?_eq_some.mpr ⟨hw.2, c, hc, rfl⟩
          rw [h.resolve_left (fun hn => hn hw.1)] at ht
          cases ht
  · rfl

end Protocol.DocumentNotice

open Protocol.DocumentNotice

/-- What some notices tell of a document: that it is not open, or what is open under its name. -/
inductive Describes (u : DocumentId) (ns : List DocumentNotice) : Option OpenDocument → Prop
  | closed (h : ∀ p, (ns.filter (opensOrCloses u)).getLast? ≠ some (.opened p)) :
      Describes u ns none
  | opened (before : List DocumentNotice) (p : DidOpen) (later : List DocumentNotice)
      (d : OpenDocument) (hns : ns = before ++ .opened p :: later) (hp : p.uri = u.uri)
      (hlater : ∀ n ∈ later, opensOrCloses u n = false) (hid : d.document.id = u)
      (hlanguage : d.document.language = p.language)
      (hnewest : (d.document.text, d.version) =
        (later.filterMap (accepted? u)).getLast?.getD (p.text, p.version)) :
      Describes u ns (some d)

namespace Describes

variable {u : DocumentId} {ns : List DocumentNotice} {d? : Option OpenDocument}

theorem isSome_iff (h : Describes u ns d?) :
    d?.isSome ↔ ∃ p, (ns.filter (opensOrCloses u)).getLast? = some (.opened p) := by
  cases h with
  | closed h => simpa using h
  | opened before p later d hns hp hlater hid hlanguage hnewest =>
      have hfilter : later.filter (opensOrCloses u) = [] :=
        List.filter_eq_nil_iff.mpr fun n hn => by simp [hlater n hn]
      have hopens : opensOrCloses u (.opened p) = true := by simp [opensOrCloses, hp]
      rw [hns, List.filter_append, List.filter_cons_of_pos hopens, hfilter, List.getLast?_concat]
      simp

/-- A notice that neither opens nor closes the document leaves it as it is, if it does not change
its text or the document is not open. -/
theorem keep (h : Describes u ns d?) {n : DocumentNotice} (hn : opensOrCloses u n = false)
    (ha : d? = none ∨ accepted? u n = none) : Describes u (ns ++ [n]) d? := by
  cases h with
  | closed h =>
      refine .closed fun p => ?_
      rw [List.filter_append, List.filter_cons_of_neg (by simp [hn]), List.filter_nil,
        List.append_nil]
      exact h p
  | opened before p later d hns hp hlater hid hlanguage hnewest =>
      have ha : accepted? u n = none := ha.resolve_left (by simp)
      refine .opened before p (later ++ [n]) d (by simp [hns]) hp ?_ hid hlanguage ?_
      · simpa [or_imp, forall_and, hn] using hlater
      · rw [List.filterMap_append, List.filterMap_cons_none ha, List.filterMap_nil,
          List.append_nil]
        exact hnewest

theorem open_ (ns : List DocumentNotice) {p : DidOpen} (hp : p.uri = u.uri) :
    Describes u (ns ++ [.opened p]) (some ⟨⟨u, p.language, p.text⟩, p.version⟩) :=
  .opened ns p [] _ rfl hp (fun _ hn => by cases hn) rfl rfl rfl

theorem close (ns : List DocumentNotice) {p : DidClose} (hp : p.uri = u.uri) :
    Describes u (ns ++ [.closed p]) none := by
  refine .closed fun q => ?_
  rw [List.filter_append, List.filter_cons_of_pos (by simp [opensOrCloses, hp]), List.filter_nil,
    List.getLast?_concat]
  simp

theorem change {d : OpenDocument} (h : Describes u ns (some d)) {p : DidChange} {text : String}
    (hp : p.uri = u.uri) (ht : Server.newText? p.changes = some text) :
    Describes u (ns ++ [.changed p]) (some ⟨d.document.setText text, p.version⟩) := by
  cases h with
  | opened before q later d hns hq hlater hid hlanguage hnewest =>
      refine .opened before q (later ++ [.changed p]) _ (by simp [hns]) hq ?_ hid hlanguage ?_
      · simpa [or_imp, forall_and, opensOrCloses] using hlater
      · rw [List.filterMap_append, List.filterMap_cons_some (accepted?_changed_eq_some hp ht),
          List.filterMap_nil, List.getLast?_concat]
        rfl

end Describes

namespace Server

variable {σ π : Type} {f : FrontEnd σ π} {language source : String} {s s' : Server σ}
  {log : List Outcome}

/-- The notices that count: those read after the first request to initialize. -/
def noticesSince (log : List Outcome) : List DocumentNotice :=
  ((log.dropWhile fun o => !o.initializes).drop 1).filterMap Outcome.notice?

theorem noticesSince_concat (log : List Outcome) (o : Outcome) :
    noticesSince (log ++ [o]) =
      noticesSince log ++ if log.any Outcome.initializes then o.notice?.toList else [] := by
  induction log with
  | nil => cases ho : o.initializes <;> simp [noticesSince, ho]
  | cons first rest ih =>
      cases hfirst : first.initializes with
      | true =>
          cases hn : o.notice? <;>
            simp [noticesSince, hfirst, List.filterMap_append, hn]
      | false => simpa [noticesSince, List.dropWhile_cons, hfirst] using ih

/-- A notice that brings a document tells what is open under the document's name, and nothing of
any other document. -/
theorem describes_brought (hs : Sound language source s) {u : DocumentId}
    {ns : List DocumentNotice} (h : Describes u ns (Keyed.find? u s.documents))
    {n : DocumentNotice} {d : OpenDocument} (hd : s.brought? n = some d) :
    Describes u (ns ++ [n]) (Keyed.find? u (s.track d).documents) := by
  rw [track, Keyed.find?_put]
  cases n with
  | opened p =>
      simp only [brought?, Option.some.injEq] at hd
      subst hd
      split
      · next hu => subst hu; exact .open_ ns rfl
      · next hu =>
          refine h.keep ?_ (.inr rfl)
          simpa [opensOrCloses] using fun hp => hu (congrArg DocumentId.mk hp)
  | changed p =>
      simp only [brought?] at hd
      split at hd
      · next opened text hfind htext =>
          simp only [Option.some.injEq] at hd
          subst hd
          have hid : opened.document.id = ⟨p.uri⟩ := hs.tracked _ _ hfind
          split
          · next hu =>
              have hu : u = ⟨p.uri⟩ := hu.symm.trans hid
              subst hu
              rw [hfind] at h
              exact h.change rfl htext
          · next hu =>
              refine h.keep rfl (.inr (accepted?_changed_eq_none (.inl fun hp => hu ?_)))
              exact hid.trans (congrArg DocumentId.mk hp)
      · cases hd
  | closed p => cases hd

theorem describes_refused {u : DocumentId} {ns : List DocumentNotice}
    (h : Describes u ns (Keyed.find? u s.documents)) {p : DidChange}
    (hd : s.brought? (.changed p) = none) :
    Describes u (ns ++ [.changed p]) (Keyed.find? u s.documents) := by
  refine h.keep rfl ?_
  by_cases hu : p.uri = u.uri
  · simp only [brought?] at hd
    cases hfind : Keyed.find? u s.documents with
    | none => exact .inl rfl
    | some opened =>
        refine .inr (accepted?_changed_eq_none (.inr ?_))
        rw [show DocumentId.mk p.uri = u from congrArg DocumentId.mk hu, hfind] at hd
        cases htext : newText? p.changes with
        | none => rfl
        | some text => simp [htext] at hd
  · exact .inr (accepted?_changed_eq_none (.inl hu))

theorem describes_closed {u : DocumentId} {ns : List DocumentNotice}
    (h : Describes u ns (Keyed.find? u s.documents)) (p : DidClose) :
    Describes u (ns ++ [.closed p]) (Keyed.find? u (s.didClose p).documents) := by
  rw [didClose, Keyed.find?_erase]
  split
  · next hu => exact .close ns (congrArg DocumentId.uri hu)
  · next hu =>
      refine h.keep ?_ (.inr rfl)
      simpa [opensOrCloses] using fun hp => hu (congrArg DocumentId.mk hp)

theorem Reach.noticesSince_counted (h : Reach f (.new language source) log s) {o : Outcome}
    {n : DocumentNotice} (hn : o.notice? = some n) (hp : s.phase ≠ .awaitingInitialize) :
    noticesSince (log ++ [o]) = noticesSince log ++ [n] := by
  rw [ne_eq, h.awaiting, Bool.not_eq_false] at hp
  rw [noticesSince_concat, if_pos hp, hn]
  rfl

theorem Reach.noticesSince_uncounted (h : Reach f (.new language source) log s) {o : Outcome}
    (hn : o.notice? = none ∨ s.phase = .awaitingInitialize) :
    noticesSince (log ++ [o]) = noticesSince log := by
  rw [noticesSince_concat]
  rcases hn with hn | hp
  · rw [hn, Option.toList_none, ite_self, List.append_nil]
  · rw [h.awaiting] at hp
    rw [hp, if_neg Bool.false_ne_true, List.append_nil]

/-- The notices that were read tell what a server tracks. -/
theorem Reach.describes (h : Reach f (.new language source) log s) (u : DocumentId) :
    Describes u (noticesSince log) (Keyed.find? u s.documents) := by
  refine h.reaction_induction (P := fun log s =>
    Describes u (noticesSince log) (Keyed.find? u s.documents)) ?_ ?_
  · exact .closed fun _ h => by cases h
  · intro log s o frames s' hreach ih hr
    cases hr with
    | notJson reason =>
        rw [hreach.noticesSince_uncounted (.inl rfl)]
        exact ih
    | answered hr =>
        rename_i id method
        obtain ⟨phase, hserver⟩ := answer_server s id method
        rw [hreach.noticesSince_uncounted (.inl (Outcome.notice?_of_request hr)), hserver]
        exact ih
    | parsed hn hp hd hl =>
        rw [hreach.noticesSince_counted hn hp]
        exact describes_brought hreach.sound ih hd
    | tracked hn hp hd hl =>
        rw [hreach.noticesSince_counted hn hp]
        exact describes_brought hreach.sound ih hd
    | closed hn hp =>
        rw [hreach.noticesSince_counted hn hp]
        exact describes_closed ih _
    | refused hn hp hd =>
        rw [hreach.noticesSince_counted hn hp]
        exact describes_refused ih hd
    | idle hj hr hn =>
        rw [hreach.noticesSince_uncounted hn]
        exact ih

/-! ## The store of a front-end that keeps nothing in mind -/

variable {report : String → List UInt8 → List Report}

/-- The stored diagnostics of a document are what the front-end reports of its tracked text. -/
theorem Reach.stored (hf : f.Reports report) (h : Reach f (.new language source) log s)
    (u : DocumentId) : ∀ d, Keyed.find? u s.documents = some d → d.document.language = language →
    s.session.store.get? u = some
      ((report (f.name u) (Text.Utf8.encode d.document.text)).map Report.toDiagnostic) := by
  refine h.reaction_induction (P := fun log s => ∀ d,
    Keyed.find? u s.documents = some d → d.document.language = language →
    s.session.store.get? u = some
      ((report (f.name u) (Text.Utf8.encode d.document.text)).map Report.toDiagnostic)) ?_ ?_
  · intro d hd
    cases hd
  · intro log s o frames s' hreach ih hr d hd hl
    cases hr with
    | notJson reason => exact ih d hd hl
    | answered hr =>
        rename_i id method
        obtain ⟨phase, hserver⟩ := answer_server s id method
        rw [hserver] at hd ⊢
        exact ih d hd hl
    | parsed hn hp hd' hl' =>
        rename_i n d'
        rw [Server.parsed, track, Keyed.find?_put] at hd
        rw [Server.parsed, Session.get?_parsed]
        split at hd
        · next hu =>
            cases hd
            rw [if_pos hu, Session.diagnose_of_reports hf, hu]
        · next hu =>
            rw [if_neg hu]
            exact ih d hd hl
    | tracked hn hp hd' hl' =>
        rename_i n d'
        rw [track, Keyed.find?_put] at hd
        split at hd
        · next hu =>
            -- what the store holds may be of another language, but then so is the document
            cases hd
            exact absurd (hl.trans hreach.sound.language_eq.symm) hl'
        · exact ih d hd hl
    | closed hn hp =>
        rw [didClose, Keyed.find?_erase] at hd
        split at hd
        · cases hd
        · exact ih d hd hl
    | refused hn hp hd' => exact ih d hd hl
    | idle hj hr hn => exact ih d hd hl

/-- A diagnostic stands for a report if it carries the message of the report and every coordinate
is lowered by one, zero staying zero. -/
structure StandsFor (d : Diagnostic) (r : Report) : Prop where
  startLine : d.range.start.line.toNat = r.span.startLine.toNat - 1
  startCharacter : d.range.start.character.toNat = r.span.startColumn.toNat - 1
  stopLine : d.range.stop.line.toNat = r.span.endLine.toNat - 1
  stopCharacter : d.range.stop.character.toNat = r.span.endColumn.toNat - 1
  message : d.message = r.message

theorem standsFor_toDiagnostic (r : Report) : StandsFor r.toDiagnostic r :=
  ⟨toNat_lower _, toNat_lower _, toNat_lower _, toNat_lower _, rfl⟩

/-- Whatever a server has served, with a front-end whose reports depend on the file alone: the
notices since the first initialization tell which documents are open, in which language, with
which text and version, and the store holds the front-end's reports on the tracked text of every
open document in the configured language, one diagnostic for each report and in their order. -/
theorem tracked_and_fresh (hf : f.Reports report) (h : Reach f (.new language source) log s)
    (u : DocumentId) :
    ((Keyed.find? u s.documents).isSome ↔
      ∃ p, ((noticesSince log).filter (opensOrCloses u)).getLast? = some (.opened p)) ∧
    ∀ d, Keyed.find? u s.documents = some d →
      (∃ before p later, noticesSince log = before ++ .opened p :: later ∧ p.uri = u.uri ∧
        (∀ n ∈ later, opensOrCloses u n = false) ∧ d.document.id = u ∧
        d.document.language = p.language ∧
        (d.document.text, d.version) =
          (later.filterMap (accepted? u)).getLast?.getD (p.text, p.version)) ∧
      (d.document.language = language →
        ∃ items, s.session.store.get? u = some items ∧
          List.Forall₂ StandsFor items (report (f.name u) (Text.Utf8.encode d.document.text))) := by
  have hdescribes := h.describes u
  refine ⟨hdescribes.isSome_iff, fun d hd => ⟨?_, fun hl => ⟨_, h.stored hf u d hd hl, ?_⟩⟩⟩
  · rw [hd] at hdescribes
    cases hdescribes with
    | opened before p later d hns hp hlater hid hlanguage hnewest =>
        exact ⟨before, p, later, hns, hp, hlater, hid, hlanguage, hnewest⟩
  · rw [List.forall₂_map_left_iff, List.forall₂_same]
    exact fun r _ => standsFor_toDiagnostic r

/-- A document that is opened and changed twice, the second time in a part that does not count. -/
theorem tracked_and_fresh_changed :
    let bad : Report := ⟨"/a", ⟨1, 2, 0, 4⟩, "bad"⟩
    let report : String → List UInt8 → List Report := fun file input =>
      if file = "/a" ∧ input = [121] then [bad] else []
    let notification : String → List Json → Outcome := fun method params =>
      .frame (.obj [("method", .str method), ("params", .arr params)])
    let log : List Outcome :=
      [.frame (.obj [("id", .int 1), ("method", .str "initialize")]),
        notification "textDocument/didOpen" [.arr [.str "file:///a", .str "c", .int 1, .str "x"]],
        notification "textDocument/didChange"
          [.arr [.str "file:///a", .int 2], .arr [.arr [.null, .str "y"]]],
        notification "textDocument/didChange"
          [.arr [.str "file:///a", .int 3], .arr [.arr [.bool true, .str "z"]]]]
    let f := FrontEnd.memoryless report
    let s := (Server.new "c" "check").after f log
    f.Reports report ∧ Reach f (.new "c" "check") log s ∧
      (Keyed.find? ⟨"file:///a"⟩ s.documents = some ⟨⟨⟨"file:///a"⟩, "c", "y"⟩, 2⟩ ∧
        ∃ before p later, noticesSince log = before ++ .opened p :: later ∧
          (later.filterMap (accepted? ⟨"file:///a"⟩)).getLast?.getD (p.text, p.version) =
            ("y", 2)) ∧
      ∃ items, s.session.store.get? ⟨"file:///a"⟩ = some items ∧
        List.Forall₂ StandsFor items [bad] := by
  intro bad report notification log f s
  have hreports : f.Reports report := FrontEnd.memoryless_reports report
  have hreach : Reach f (.new "c" "check") log s := Reach.start.after log
  have hd : Keyed.find? ⟨"file:///a"⟩ s.documents = some ⟨⟨⟨"file:///a"⟩, "c", "y"⟩, 2⟩ := by
    decide +kernel
  obtain ⟨⟨before, p, later, hns, _, _, _, _, hnewest⟩, hfresh⟩ :=
    (tracked_and_fresh hreports hreach ⟨"file:///a"⟩).2 _ hd
  refine ⟨hreports, hreach, ⟨hd, before, p, later, hns, hnewest.symm⟩, ?_⟩
  obtain ⟨items, hitems, hall⟩ := hfresh rfl
  rw [show report (f.name ⟨"file:///a"⟩) (Text.Utf8.encode "y") = [bad] by
    decide +kernel] at hall
  exact ⟨items, hitems, hall⟩

end Server

end DiagServer
