import DiagServer.Proofs.Session.Refresh
import DiagServer.Server.Serve

/-!
# How a server reacts to one outcome

One turn of serving reads one outcome, changes the server and writes some frames. `Reaction` lists
all that can happen in a turn of a server that has nothing pending: seven rules, none of which
looks at how messages are decoded, how the session parses or how changes are drained.
`reaction_step` is the one place where the definitions of the server are opened; every invariant
of a run is proved by cases on the rules.

Draining is where the rules are won. A server that waits has nothing to send, so what a turn sends
is what the turn itself published: the diagnostics of at most one document. Besides that, the
document a change is parsed for has to be the one that is tracked under the name in the change,
which is the other half of `Sound`.
-/

namespace DiagServer

open DiagServer.Protocol DiagServer.Frame

namespace Frame.Outcome

/-- The identifier and the method of a request that was read. -/
def request? : Outcome → Option (Json × String)
  | .frame v =>
      match v.member? "id", (v.member? "method").bind Json.text? with
      | some id, some method => some (id, method)
      | _, _ => none
  | _ => none

/-- The method and the parameters of a notification that was read. -/
def notification? : Outcome → Option (String × Option Json)
  | .frame v =>
      match v.member? "id", (v.member? "method").bind Json.text? with
      | none, some method => some (method, v.member? "params")
      | _, _ => none
  | _ => none

/-- What a notification that was read says about a document. -/
def notice? (o : Outcome) : Option DocumentNotice :=
  o.notification?.bind fun n => DocumentNotice.ofNotification? n.1 n.2

end Frame.Outcome

variable {σ π : Type} {f : FrontEnd σ π}

namespace Server

/-! ## What a notice does -/

theorem newText?_eq_some {changes : List ContentChange} {text : String} :
    newText? changes = some text ↔
      (∀ c ∈ changes, c.isPartial = false) ∧
        ∃ c, changes.getLast? = some c ∧ c.text = text := by
  rw [newText?]
  by_cases h : changes.any (·.isPartial) = true
  · rw [if_pos h]
    simp only [List.any_eq_true] at h
    obtain ⟨c, hc, hp⟩ := h
    refine ⟨fun hn => (by cases hn), fun hn => ?_⟩
    rw [hn.1 c hc] at hp
    cases hp
  · rw [if_neg h, Option.map_eq_some_iff]
    refine ⟨fun hc => ⟨fun c hmem => ?_, hc⟩, fun hc => hc.2⟩
    simp only [List.any_eq_true, not_exists, not_and, Bool.not_eq_true] at h
    exact h c hmem

/-- The open document that a notice leaves under its name, if it brings a text. -/
def brought? (s : Server σ) : DocumentNotice → Option OpenDocument
  | .opened p => some ⟨⟨⟨p.uri⟩, p.language, p.text⟩, p.version⟩
  | .changed p =>
      match Keyed.find? ⟨p.uri⟩ s.documents, newText? p.changes with
      | some opened, some text => some ⟨opened.document.setText text, p.version⟩
      | _, _ => none
  | .closed _ => none

/-- Keep track of a document. -/
def track (s : Server σ) (d : OpenDocument) : Server σ :=
  { s with documents := Keyed.put d.document.id d s.documents }

/-- Keep track of a document, parse it and send its diagnostics. -/
def parsed (f : FrontEnd σ π) (s : Server σ) (d : OpenDocument) : Server σ :=
  { s.track d with session := s.session.parsed f d.document }

/-- What holds of every server between two turns: nothing is pending, a document is tracked under
its own name, and the configuration stays. -/
structure Sound (language source : String) (s : Server σ) : Prop where
  settled : s.session.store.changed = []
  tracked : ∀ u d, Keyed.find? u s.documents = some d → d.document.id = u
  language_eq : s.session.language = language
  source_eq : s.source = source

/-- All that can happen in one turn of a sound server: what is read, the frames that are written
and the server afterwards. -/
inductive Reaction (f : FrontEnd σ π) (s : Server σ) : Outcome → List Json → Server σ → Prop
  | notJson (reason : String) :
      Reaction f s (.notJson reason) [failure .null (.parseError (notJsonMessage reason))] s
  | answered {o : Outcome} {id : Json} {method : String} (hr : o.request? = some (id, method)) :
      Reaction f s o [(s.answer id method).1] (s.answer id method).2
  | parsed {o : Outcome} {n : DocumentNotice} {d : OpenDocument} (hn : o.notice? = some n)
      (hp : s.phase ≠ .awaitingInitialize) (hd : s.brought? n = some d)
      (hl : d.document.language = s.session.language) :
      Reaction f s o
        [publishDiagnostics s.source d.document.id (some d.version)
          (s.session.diagnose f d.document)]
        (s.parsed f d)
  | tracked {o : Outcome} {n : DocumentNotice} {d : OpenDocument} (hn : o.notice? = some n)
      (hp : s.phase ≠ .awaitingInitialize) (hd : s.brought? n = some d)
      (hl : d.document.language ≠ s.session.language) :
      Reaction f s o [] (s.track d)
  | closed {o : Outcome} {p : DidClose} (hn : o.notice? = some (.closed p))
      (hp : s.phase ≠ .awaitingInitialize) : Reaction f s o [] (s.didClose p)
  | refused {o : Outcome} {p : DidChange} (hn : o.notice? = some (.changed p))
      (hp : s.phase ≠ .awaitingInitialize) (hd : s.brought? (.changed p) = none) :
      Reaction f s o [] s
  | idle {o : Outcome} (hj : ∀ reason, o ≠ .notJson reason) (hr : o.request? = none)
      (hn : o.notice? = none ∨ s.phase = .awaitingInitialize) : Reaction f s o [] s

variable {language source : String} {s : Server σ}

/-! ## The turn of each kind of outcome -/

/-- With nothing pending, a turn sends no more than what it wrote already. -/
theorem publishChanges_settled (h : s.session.store.changed = []) (before : List (Write σ)) :
    s.publishChanges before = { writes := before, server := s } := by
  rw [publishChanges]
  simp only [Session.drain_settled h, List.map_nil, List.append_nil]

/-- All that can happen to a request: the frame that answers it and the server afterwards. -/
inductive Answer (s : Server σ) (id : Json) : String → Json → Server σ → Prop
  | notInitialized {method : String} (hp : s.phase = .awaitingInitialize)
      (hm : method ≠ "initialize") : Answer s id method (failure id .notInitialized) s
  | initialized (hp : s.phase = .awaitingInitialize) :
      Answer s id "initialize" (success id (initializeResult name version))
        { s with phase := .running }
  | alreadyInitialized (hp : s.phase = .running) :
      Answer s id "initialize" (failure id .alreadyInitialized) s
  | shutDown (hp : s.phase = .running) :
      Answer s id "shutdown" (success id .null) { s with phase := .shutdownRequested }
  | methodNotFound {method : String} (hp : s.phase = .running) (hi : method ≠ "initialize")
      (hs : method ≠ "shutdown") : Answer s id method (failure id (.methodNotFound method)) s
  | shuttingDown {method : String} (hp : s.phase = .shutdownRequested) :
      Answer s id method (failure id .shuttingDown) s

theorem answer_cases (s : Server σ) (id : Json) (method : String) :
    Answer s id method (s.answer id method).1 (s.answer id method).2 := by
  rw [answer]
  split
  · next hp =>
      split
      · next hm =>
          subst hm
          exact .initialized hp
      · next hm => exact .notInitialized hp hm
  · next hp =>
      split
      · next hm =>
          subst hm
          exact .alreadyInitialized hp
      · next hi =>
          split
          · next hs =>
              subst hs
              exact .shutDown hp
          · next hs => exact .methodNotFound hp hi hs
  · next hp => exact .shuttingDown hp

/-- A request changes the phase and nothing else. -/
theorem answer_server (s : Server σ) (id : Json) (method : String) :
    ∃ phase, (s.answer id method).2 = { s with phase } := by
  have h := answer_cases s id method
  generalize (s.answer id method).1 = frame, (s.answer id method).2 = s' at h
  cases h with
  | initialized hp => exact ⟨.running, rfl⟩
  | shutDown hp => exact ⟨.shutdownRequested, rfl⟩
  | _ => exact ⟨s.phase, rfl⟩

theorem receive_request {v : Json} {id : Json} {method : String}
    (hr : (Outcome.frame v).request? = some (id, method)) (hs : Sound language source s) :
    s.receive f v =
      { writes := [⟨.answer method, (s.answer id method).1, (s.answer id method).2⟩]
        server := (s.answer id method).2 } := by
  have hm : Message.ofJson? v = some (.request id method (v.member? "params")) := by
    simp only [Outcome.request?] at hr
    rw [Message.ofJson?]
    split at hr
    · next hid hmethod =>
        simp only [Option.some.injEq, Prod.mk.injEq] at hr
        rw [hid, hmethod, hr.1, hr.2]
    · cases hr
  have hsettled : (s.answer id method).2.session.store.changed = [] := by
    obtain ⟨phase, h⟩ := answer_server s id method
    rw [h]
    exact hs.settled
  rw [receive, hm]
  exact publishChanges_settled hsettled _

theorem receive_notification {v : Json} {method : String} {params : Option Json}
    (hn : (Outcome.frame v).notification? = some (method, params)) :
    s.receive f v =
      if method = "exit" then { writes := [], server := s, ending := some (.exit s.leave) }
      else (s.notify f method params).publishChanges [] := by
  have hm : Message.ofJson? v = some (.notification method params) := by
    simp only [Outcome.notification?] at hn
    rw [Message.ofJson?]
    split at hn
    · next hid hmethod =>
        simp only [Option.some.injEq, Prod.mk.injEq] at hn
        rw [hid, hmethod, ← hn.1, ← hn.2]
    · cases hn
  rw [receive, hm]

theorem receive_other {v : Json} (hr : (Outcome.frame v).request? = none)
    (hn : (Outcome.frame v).notification? = none) (hs : Sound language source s) :
    s.receive f v = { writes := [], server := s } := by
  have hm : Message.ofJson? v = some .response ∨ Message.ofJson? v = none := by
    simp only [Outcome.request?, Outcome.notification?] at hr hn
    rw [Message.ofJson?]
    cases hid : v.member? "id" with
    | none =>
        cases hmethod : (v.member? "method").bind Json.text? with
        | none => exact .inr rfl
        | some method => simp [hid, hmethod] at hn
    | some id =>
        cases hmethod : (v.member? "method").bind Json.text? with
        | none =>
            simp only
            split
            · exact .inl rfl
            · exact .inr rfl
        | some method => simp [hid, hmethod] at hr
  rw [receive]
  rcases hm with hm | hm
  · rw [hm]
    exact publishChanges_settled hs.settled []
  · rw [hm]
    exact publishChanges_settled hs.settled []

/-! ## The turn of a notice -/

/-- A notice that brings a text has the document tracked under its own name and looked at. -/
theorem notice_brought {n : DocumentNotice} {d : OpenDocument} (hs : Sound language source s)
    (hd : s.brought? n = some d) :
    s.notice f n = { s.track d with session := s.session.refresh f d.document } := by
  cases n with
  | opened p =>
      simp only [brought?, Option.some.injEq] at hd
      subst hd
      rfl
  | changed p =>
      simp only [brought?] at hd
      split at hd
      · next opened text hfind htext =>
          simp only [Option.some.injEq] at hd
          subst hd
          -- the change is tracked under the name it gives, and parsed under the document's own
          have hid : opened.document.id = ⟨p.uri⟩ := hs.tracked _ _ hfind
          simp only [notice, didChange, hfind, htext, track, TextDocument.setText, hid]
          rfl
      · cases hd
  | closed p => cases hd

theorem notice_refused {p : DidChange} (hd : s.brought? (.changed p) = none) :
    s.notice f (.changed p) = s := by
  cases hfind : Keyed.find? ⟨p.uri⟩ s.documents with
  | none => simp only [notice, didChange, hfind]
  | some opened =>
      cases htext : newText? p.changes with
      | none => simp only [notice, didChange, hfind, htext]
      | some text => simp [brought?, hfind, htext] at hd

theorem publishChanges_parsed {d : OpenDocument} (hs : Sound language source s)
    (hl : d.document.language = s.session.language) :
    ({ s.track d with session := s.session.refresh f d.document } : Server σ).publishChanges [] =
      { writes := [⟨.publish d.document.id,
          publishDiagnostics s.source d.document.id (some d.version)
            (s.session.diagnose f d.document), s.parsed f d⟩]
        server := s.parsed f d } := by
  rw [publishChanges]
  simp only [Session.drain_refresh hs.settled hl, List.map_cons, List.map_nil, List.nil_append,
    publication, track, Keyed.find?_put_self, Option.map_some]
  rfl

theorem publishChanges_tracked {d : OpenDocument} (hs : Sound language source s)
    (hl : d.document.language ≠ s.session.language) :
    ({ s.track d with session := s.session.refresh f d.document } : Server σ).publishChanges [] =
      { writes := [], server := s.track d } := by
  rw [Session.refresh_of_ne hl]
  exact publishChanges_settled (s := s.track d) hs.settled []

theorem notify_of_notice {method : String} {params : Option Json} {n : DocumentNotice}
    (hn : DocumentNotice.ofNotification? method params = some n)
    (hp : s.phase ≠ .awaitingInitialize) : s.notify f method params = s.notice f n := by
  rw [notify, if_neg hp, hn]

theorem notify_of_none {method : String} {params : Option Json}
    (hn : DocumentNotice.ofNotification? method params = none ∨ s.phase = .awaitingInitialize) :
    s.notify f method params = s := by
  rw [notify]
  split
  · rfl
  · next hp => rw [hn.resolve_right hp]

theorem ofNotification?_exit (params : Option Json) :
    DocumentNotice.ofNotification? "exit" params = none := by
  simp [DocumentNotice.ofNotification?]

theorem reaction_notification {v : Json} {method : String} {params : Option Json}
    (hn : (Outcome.frame v).notification? = some (method, params)) (hs : Sound language source s) :
    Reaction f s (.frame v) ((s.receive f v).writes.map (·.frame)) (s.receive f v).server ∧
      ∀ w ∈ (s.receive f v).writes, w.server = (s.receive f v).server := by
  have hr : (Outcome.frame v).request? = none := by
    simp only [Outcome.notification?] at hn
    simp only [Outcome.request?]
    split at hn
    · next hid hmethod => rw [hid]
    · cases hn
  have hnotice : (Outcome.frame v).notice? = DocumentNotice.ofNotification? method params := by
    rw [Outcome.notice?, hn]
    rfl
  have hidle : ∀ (_ : (Outcome.frame v).notice? = none ∨ s.phase = .awaitingInitialize),
      Reaction f s (.frame v) [] s := .idle (fun _ h => by cases h) hr
  rw [receive_notification hn]
  split
  · next hexit =>
      refine ⟨hidle (.inl ?_), by simp⟩
      rw [hnotice, hexit, ofNotification?_exit]
  · by_cases hp : s.phase = .awaitingInitialize
    · rw [notify_of_none (.inr hp), publishChanges_settled hs.settled]
      exact ⟨hidle (.inr hp), by simp⟩
    · cases hof : DocumentNotice.ofNotification? method params with
      | none =>
          rw [notify_of_none (.inl hof), publishChanges_settled hs.settled]
          exact ⟨hidle (.inl (hnotice.trans hof)), by simp⟩
      | some n =>
          rw [notify_of_notice hof hp]
          cases hd : s.brought? n with
          | some d =>
              rw [notice_brought hs hd]
              by_cases hl : d.document.language = s.session.language
              · rw [publishChanges_parsed hs hl]
                exact ⟨.parsed (hnotice.trans hof) hp hd hl, by simp⟩
              · rw [publishChanges_tracked hs hl]
                exact ⟨.tracked (hnotice.trans hof) hp hd hl, by simp⟩
          | none =>
              cases n with
              | opened p => cases hd
              | changed p =>
                  rw [notice_refused hd, publishChanges_settled hs.settled]
                  exact ⟨.refused (hnotice.trans hof) hp hd, by simp⟩
              | closed p =>
                  rw [notice, publishChanges_settled (s := s.didClose p) hs.settled]
                  exact ⟨.closed (hnotice.trans hof) hp, by simp⟩

/-- Every turn of a sound server is one of the rules, and every frame is written by the server
that the turn leaves. -/
theorem reaction_step (hs : Sound language source s) (o : Outcome) :
    Reaction f s o ((s.step f o).writes.map (·.frame)) (s.step f o).server ∧
      ∀ w ∈ (s.step f o).writes, w.server = (s.step f o).server := by
  cases o with
  | notJson reason => exact ⟨.notJson reason, by simp [step]⟩
  | broken e => exact ⟨.idle (fun _ h => by cases h) rfl (.inl rfl), by simp [step]⟩
  | ended => exact ⟨.idle (fun _ h => by cases h) rfl (.inl rfl), by simp [step]⟩
  | frame v =>
      rw [step]
      cases hr : (Outcome.frame v).request? with
      | some r =>
          rw [receive_request hr hs]
          exact ⟨.answered hr, by simp⟩
      | none =>
          cases hn : (Outcome.frame v).notification? with
          | some n => exact reaction_notification hn hs
          | none =>
              rw [receive_other hr hn hs]
              refine ⟨.idle (fun _ h => by cases h) hr (.inl ?_), by simp⟩
              rw [Outcome.notice?, hn]
              rfl

/-! ## Soundness is kept -/

theorem Sound.new (language source : String) :
    Sound language source (.new language source : Server σ) where
  settled := rfl
  tracked := fun u d h => by cases h
  language_eq := rfl
  source_eq := rfl

theorem Sound.track (hs : Sound language source s) (d : OpenDocument) :
    Sound language source (s.track d) where
  settled := hs.settled
  tracked := by
    intro u e he
    rw [Server.track, Keyed.find?_put] at he
    split at he
    · next hu =>
        cases he
        exact hu
    · exact hs.tracked u e he
  language_eq := hs.language_eq
  source_eq := hs.source_eq

theorem Sound.didClose (hs : Sound language source s) (p : DidClose) :
    Sound language source (s.didClose p) where
  settled := hs.settled
  tracked := by
    intro u e he
    rw [Server.didClose, Keyed.find?_erase] at he
    split at he
    · cases he
    · exact hs.tracked u e he
  language_eq := hs.language_eq
  source_eq := hs.source_eq

theorem Sound.reaction {o : Outcome} {frames : List Json} {s' : Server σ}
    (hs : Sound language source s) (h : Reaction f s o frames s') : Sound language source s' := by
  cases h with
  | notJson reason => exact hs
  | answered hr =>
      rename_i id method
      obtain ⟨phase, h⟩ := answer_server s id method
      rw [h]
      exact ⟨hs.settled, hs.tracked, hs.language_eq, hs.source_eq⟩
  | parsed hn hp hd hl =>
      rename_i n d
      have := hs.track d
      exact ⟨rfl, this.tracked, this.language_eq, this.source_eq⟩
  | tracked hn hp hd hl => exact hs.track _
  | closed hn hp => exact hs.didClose _
  | refused hn hp hd => exact hs
  | idle hj hr hn => exact hs

end Server

end DiagServer
