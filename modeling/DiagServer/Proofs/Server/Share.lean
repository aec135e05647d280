import DiagServer.Proofs.Server.Client
import DiagServer.Proofs.Server.Lifecycle

/-!
# The share of one document

The open documents, the store with its list of changes and the system of the front-end are shared
by all documents. But a server keeps to each document what belongs to it. `Share` is the part of a
server that one document has to do with, and `Share.turn` says how this part would react to an
outcome all by itself, without the rest. `Reaction.share` says that this is what happens: whatever a
server does, its share of a document and the frames that concern this document are the ones that
`Share.turn` gives. For this the reports of the front-end must not depend on its system, since the
system is what other documents do leave behind.
-/

namespace DiagServer

open DiagServer.Protocol DiagServer.Frame DiagServer.Client

namespace Protocol.DocumentNotice

/-- The document that a notice is about. -/
def document : DocumentNotice → DocumentId
  | .opened p => ⟨p.uri⟩
  | .changed p => ⟨p.uri⟩
  | .closed p => ⟨p.uri⟩

/-- The open document that a notice leaves of the one before, if it brings a text. -/
def brings? (opened : Option OpenDocument) : DocumentNotice → Option OpenDocument
  | .opened p => some ⟨⟨⟨p.uri⟩, p.language, p.text⟩, p.version⟩
  | .changed p =>
      match opened, Server.newText? p.changes with
      | some opened, some text => some ⟨opened.document.setText text, p.version⟩
      | _, _ => none
  | .closed _ => none

end Protocol.DocumentNotice

namespace Frame.Outcome

/-- A notice about another document than this one was read. -/
def IsElsewhere (u : DocumentId) (o : Outcome) : Prop := ∃ n, o.notice? = some n ∧ n.document ≠ u

/-- What is written for an outcome that is no value. -/
def complaints : Outcome → List Json
  | .notJson reason => [failure .null (.parseError (notJsonMessage reason))]
  | _ => []

end Frame.Outcome

/-! ## The frames that concern a document -/

namespace Client

/-- The frames that are no publications. -/
def responses (frames : List Json) : List Json :=
  frames.filter fun frame => decide (publishedUri? frame = none)

/-- The frames without the publications for other documents. -/
def concerning (u : DocumentId) (frames : List Json) : List Json :=
  frames.filter fun frame =>
    decide (publishedUri? frame = none) || decide (publishedUri? frame = some u.uri)

theorem concerning_append (u : DocumentId) (frames more : List Json) :
    concerning u (frames ++ more) = concerning u frames ++ concerning u more :=
  List.filter_append frames more

theorem responses_concerning (u : DocumentId) (frames : List Json) :
    responses (concerning u frames) = responses frames := by
  rw [responses, responses, concerning, List.filter_filter]
  congr 1
  funext frame
  by_cases h : publishedUri? frame = none
  · simp [h]
  · simp [h]

theorem publicationsFor_concerning (u : DocumentId) (frames : List Json) :
    publicationsFor u (concerning u frames) = publicationsFor u frames := by
  rw [publicationsFor, publicationsFor, concerning, List.filter_filter]
  congr 1
  funext frame
  by_cases h : publishedUri? frame = some u.uri
  · simp [h]
  · simp [h]

theorem concerning_of_none {frame : Json} (h : publishedUri? frame = none) (u : DocumentId) :
    concerning u [frame] = [frame] := by
  rw [concerning, List.filter_cons_of_pos (by simp [h]), List.filter_nil]

theorem concerning_publishDiagnostics (u : DocumentId) (source : String) (id : DocumentId)
    (version : Option Int) (items : List Diagnostic) :
    concerning u [publishDiagnostics source id version items] =
      if id = u then [publishDiagnostics source id version items] else [] := by
  rw [concerning, List.filter_cons, publishedUri?_publishDiagnostics, List.filter_nil]
  obtain ⟨uri⟩ := u
  obtain ⟨uri'⟩ := id
  simp

end Client

/-! ## The share of a document -/

/-- What a server has that one document has to do with. -/
structure Share where
  phase : Phase
  document : Option OpenDocument
  diagnostics : Option (List Diagnostic)

namespace Share

/-- What a notice about the document does to its share, and the frames for it. `diagnose` tells what
the front-end finds in a document. -/
def heed (diagnose : TextDocument → List Diagnostic) (language source : String) (share : Share)
    (n : DocumentNotice) : Share × List Json :=
  match n.brings? share.document, n with
  | some d, _ =>
      if d.document.language = language then
        let items := diagnose d.document
        ({ share with document := some d, diagnostics := some items },
          [publishDiagnostics source d.document.id (some d.version) items])
      else ({ share with document := some d }, [])
  | none, .closed _ => ({ share with document := none }, [])
  | none, _ => (share, [])

/-- What an outcome does to the share of a document, and the frames for it: requests are answered
by the phase, and notices about other documents do nothing. -/
def turn (diagnose : TextDocument → List Diagnostic) (language source : String) (u : DocumentId)
    (share : Share) (o : Outcome) : Share × List Json :=
  match o.request?, o.notice? with
  | some (id, method), _ =>
      let server : Server Unit := { session := { language }, source, phase := share.phase }
      ({ share with phase := (server.answer id method).2.phase }, [(server.answer id method).1])
  | none, some n =>
      if share.phase = .awaitingInitialize ∨ n.document ≠ u then (share, [])
      else share.heed diagnose language source n
  | none, none => (share, o.complaints)

end Share

namespace Server

variable {σ π : Type} {f : FrontEnd σ π} {diagnose : TextDocument → List Diagnostic}
  {language source : String} {s s' t : Server σ} {o : Outcome} {frames : List Json}
  {u : DocumentId}

/-- The share of a document in a server. -/
def share (u : DocumentId) (s : Server σ) : Share where
  phase := s.phase
  document := Keyed.find? u s.documents
  diagnostics := s.session.store.get? u

theorem brought?_eq (s : Server σ) (n : DocumentNotice) :
    s.brought? n = n.brings? (Keyed.find? n.document s.documents) := by
  cases n with
  | opened p => rfl
  | changed p => rfl
  | closed p => rfl

/-- What a notice brings is open under the name that the notice gives. -/
theorem id_of_brought (hs : Sound language source s) {n : DocumentNotice} {d : OpenDocument}
    (hd : s.brought? n = some d) : d.document.id = n.document := by
  cases n with
  | opened p =>
      cases hd
      rfl
  | changed p =>
      simp only [brought?] at hd
      split at hd
      · next opened text hfind htext =>
          cases hd
          exact hs.tracked ⟨p.uri⟩ opened hfind
      · cases hd
  | closed p => cases hd

theorem answer_of_phase {τ : Type} {t : Server τ} (h : s.phase = t.phase) (id : Json)
    (method : String) :
    (s.answer id method).1 = (t.answer id method).1 ∧
      (s.answer id method).2.phase = (t.answer id method).2.phase := by
  rw [answer, answer, ← h]
  cases s.phase with
  | awaitingInitialize =>
      by_cases hm : method = "initialize"
      · simp [hm]
      · simp [hm, h]
  | running =>
      by_cases hm : method = "initialize"
      · simp [hm, h]
      · by_cases hm' : method = "shutdown"
        · simp [hm']
        · simp [hm, hm', h]
  | shutdownRequested => exact ⟨rfl, h⟩

theorem share_track (s : Server σ) (d : OpenDocument) (u : DocumentId) :
    (s.track d).share u =
      if d.document.id = u then { s.share u with document := some d } else s.share u := by
  rw [share, track, Keyed.find?_put]
  split
  · rfl
  · rfl

theorem share_parsed (hf : ∀ s d, Session.diagnose f s d = diagnose d) (s : Server σ) (d : OpenDocument) (u : DocumentId) :
    (s.parsed f d).share u =
      if d.document.id = u then
        { s.share u with
          document := some d
          diagnostics := some (diagnose d.document) }
      else s.share u := by
  have hget := Session.get?_parsed (f := f) s.session d.document u
  rw [hf] at hget
  rw [share, parsed, track, Keyed.find?_put, hget]
  split
  · rfl
  · rfl

theorem share_didClose (s : Server σ) (p : DidClose) (u : DocumentId) :
    (s.didClose p).share u =
      if ⟨p.uri⟩ = u then { s.share u with document := none } else s.share u := by
  rw [share, didClose, Keyed.find?_erase]
  split
  · rfl
  · rfl

theorem turn_of_request (share : Share) {id : Json} {method : String}
    (ho : o.request? = some (id, method)) (hp : s.phase = share.phase) :
    share.turn diagnose language source u o =
      ({ share with phase := (s.answer id method).2.phase }, [(s.answer id method).1]) := by
  obtain ⟨hframe, hphase⟩ := answer_of_phase
    (t := ({ session := { language }, source, phase := share.phase } : Server Unit)) hp id method
  rw [Share.turn, ho, hframe, hphase]

theorem turn_of_elsewhere (share : Share) (ho : o.IsElsewhere u) :
    share.turn diagnose language source u o = (share, []) := by
  obtain ⟨n, hn, hu⟩ := ho
  rw [Share.turn, Outcome.request?_of_notice hn, hn]
  exact if_pos (.inr hu)

theorem turn_of_notice {share : Share} {n : DocumentNotice} (hn : o.notice? = some n)
    (hu : n.document = u) (hp : share.phase ≠ .awaitingInitialize) :
    share.turn diagnose language source u o = share.heed diagnose language source n := by
  rw [Share.turn, Outcome.request?_of_notice hn, hn]
  exact if_neg fun h => h.elim hp (fun hn => hn hu)

theorem turn_of_idle (share : Share) (hr : o.request? = none)
    (hn : o.notice? = none ∨ share.phase = .awaitingInitialize) :
    share.turn diagnose language source u o = (share, o.complaints) := by
  rw [Share.turn, hr]
  cases ho : o.notice? with
  | none => rfl
  | some n =>
      have hc : o.complaints = [] := by
        cases o with
        | notJson reason => cases ho
        | _ => rfl
      rw [hc]
      exact if_pos (.inl (hn.resolve_left (by simp [ho])))

/-- Whatever a server does in a turn, the share of a document does all by itself. -/
theorem Reaction.share (hf : ∀ s d, Session.diagnose f s d = diagnose d) (hs : Sound language source s)
    (hr : Reaction f s o frames s') (u : DocumentId) :
    (s'.share u, concerning u frames) = (s.share u).turn diagnose language source u o := by
  cases hr with
  | notJson reason =>
      rw [turn_of_idle _ rfl (.inl rfl), concerning_of_none (publishedUri?_failure _ _)]
      rfl
  | answered ho =>
      rename_i id method
      obtain ⟨phase, hserver⟩ := answer_server s id method
      rw [turn_of_request (s.share u) ho rfl, concerning_of_none (publishedUri?_answer s id method),
        hserver]
      rfl
  | parsed hn hp hd hl =>
      rename_i n d
      have hid := id_of_brought hs hd
      rw [share_parsed hf, concerning_publishDiagnostics]
      by_cases hu : n.document = u
      · rw [brought?_eq, hu] at hd
        have hbrings : n.brings? (s.share u).document = some d := hd
        rw [turn_of_notice hn hu hp, if_pos (hid.trans hu), if_pos (hid.trans hu)]
        simp only [Share.heed, hbrings, if_pos (hl.trans hs.language_eq), hs.source_eq, hf]
      · have hne : d.document.id ≠ u := by rwa [hid]
        rw [turn_of_elsewhere _ ⟨n, hn, hu⟩, if_neg hne, if_neg hne]
  | tracked hn hp hd hl =>
      rename_i n d
      rw [share_track, id_of_brought hs hd]
      by_cases hu : n.document = u
      · rw [brought?_eq, hu] at hd
        have hbrings : n.brings? (s.share u).document = some d := hd
        have hlanguage : d.document.language ≠ language := by rwa [← hs.language_eq]
        rw [turn_of_notice hn hu hp, if_pos hu]
        simp only [Share.heed, hbrings, if_neg hlanguage]
        rfl
      · rw [turn_of_elsewhere _ ⟨n, hn, hu⟩, if_neg hu]
        rfl
  | closed hn hp =>
      rename_i p
      rw [share_didClose]
      by_cases hu : (⟨p.uri⟩ : DocumentId) = u
      · rw [turn_of_notice hn hu hp, if_pos hu]
        rfl
      · rw [turn_of_elsewhere _ ⟨_, hn, hu⟩, if_neg hu]
        rfl
  | refused hn hp hd =>
      rename_i p
      by_cases hu : (⟨p.uri⟩ : DocumentId) = u
      · rw [brought?_eq, DocumentNotice.document, hu] at hd
        have hbrings : (DocumentNotice.changed p).brings? (s.share u).document = none := hd
        rw [turn_of_notice hn hu hp]
        simp only [Share.heed, hbrings]
        rfl
      · rw [turn_of_elsewhere _ ⟨_, hn, hu⟩]
        rfl
  | idle hj ho hn =>
      have hc : o.complaints = [] := by
        cases o with
        | notJson reason => exact absurd rfl (hj reason)
        | _ => rfl
      rw [turn_of_idle (s.share u) ho hn, hc]
      rfl

end Server

end DiagServer
