import DiagServer.Proofs.Server.Client
import DiagServer.Proofs.Server.Lifecycle

/-!
# What is written for each outcome

Every frame that a server writes answers one outcome that it read, and no outcome is answered
twice. A faulty body and a request are answered always; a notification only if it submits a text in
the configured language, and then by the diagnostics of that text. `Submits` says which
notifications do, by what the client sent and by what is open, and `submits_iff` that these are the
ones which bring a document to parse.
-/

namespace DiagServer

open DiagServer.Protocol DiagServer.Frame DiagServer.Client

namespace Server

variable {σ π : Type} {f : FrontEnd σ π} {language source : String} {s : Server σ}

/-- A frame that answers a request: it carries the request's identifier and either a result or an
error, and is no notification. -/
structure IsResponse (id frame : Json) : Prop where
  id_eq : frame.member? "id" = some id
  noMethod : frame.member? "method" = none
  content : (frame.member? "result").isSome = !(frame.member? "error").isSome

/-- The number of the error that a frame carries. -/
def errorCode? (frame : Json) : Option Json :=
  (frame.member? "error").bind fun error => error.member? "code"

/-- A notice submits a text for a document, with a version, if it opens a document in the configured
language, or if it changes one that is open and all its changes, of which there is one at least,
replace the whole text; the text is that of the last change. -/
inductive Submits (language : String) (s : Server σ) :
    DocumentNotice → DocumentId → Int → String → Prop
  | opened (p : DidOpen) (hl : p.language = language) :
      Submits language s (.opened p) ⟨p.uri⟩ p.version p.text
  | changed (p : DidChange) (d : OpenDocument) (c : ContentChange)
      (hd : Keyed.find? ⟨p.uri⟩ s.documents = some d) (hl : d.document.language = language)
      (hw : ∀ c ∈ p.changes, c.isPartial = false) (hc : p.changes.getLast? = some c) :
      Submits language s (.changed p) ⟨p.uri⟩ p.version c.text

/-- The notices that submit a text are those that bring a document in the configured language. -/
theorem submits_iff (hs : Sound language source s) {n : DocumentNotice} {u : DocumentId}
    {version : Int} {text : String} :
    Submits language s n u version text ↔
      s.brought? n = some ⟨⟨u, language, text⟩, version⟩ := by
  constructor
  · intro h
    cases h with
    | opened p hl => rw [brought?, hl]
    | changed p d c hd hl hw hc =>
        have htext : newText? p.changes = some c.text := newText?_eq_some.mpr ⟨hw, c, hc, rfl⟩
        simp only [brought?, hd, htext, TextDocument.setText]
        rw [hl, hs.tracked _ _ hd]
  · intro h
    cases n with
    | opened p =>
        simp only [brought?, Option.some.injEq, OpenDocument.mk.injEq, TextDocument.mk.injEq] at h
        obtain ⟨⟨rfl, hl, rfl⟩, rfl⟩ := h
        exact .opened p hl
    | changed p =>
        simp only [brought?] at h
        split at h
        · next d text' hd htext =>
            simp only [Option.some.injEq, OpenDocument.mk.injEq, TextDocument.setText,
              TextDocument.mk.injEq] at h
            obtain ⟨⟨hu, hl, rfl⟩, rfl⟩ := h
            obtain ⟨hw, c, hc, rfl⟩ := newText?_eq_some.mp htext
            rw [← hu, hs.tracked _ _ hd]
            exact .changed p d c hd hl hw hc
        · cases h
    | closed p => cases h

theorem isResponse_success (id result : Json) : IsResponse id (success id result) where
  id_eq := by rw [success, Json.member?_object]; rfl
  noMethod := by rw [success, Json.member?_object]; rfl
  content := by rw [success, Json.member?_object, Json.member?_object]; rfl

theorem isResponse_failure (id : Json) (r : Refusal) :
    IsResponse id (Protocol.failure id r) where
  id_eq := by rw [Protocol.failure, Json.member?_object]; rfl
  noMethod := by rw [Protocol.failure, Json.member?_object]; rfl
  content := by rw [Protocol.failure, Json.member?_object, Json.member?_object]; rfl

theorem errorCode?_failure (id : Json) (r : Refusal) :
    errorCode? (Protocol.failure id r) = some (.int r.code) := by
  have herror : (Protocol.failure id r).member? "error" =
      some (.object [("code", .int r.code), ("message", .str r.message)]) := by
    rw [Protocol.failure, Json.member?_object]
    rfl
  rw [errorCode?, herror, Option.bind_some, Json.member?_object]
  rfl

theorem isResponse_answer (s : Server σ) (id : Json) (method : String) :
    IsResponse id (s.answer id method).1 := by
  rcases answer_frame s id method with ⟨result, h⟩ | ⟨r, h⟩
  · rw [h]
    exact isResponse_success id result
  · rw [h]
    exact isResponse_failure id r

/-- What a server writes for one outcome, `before` being all that was read before it. -/
structure Replies (f : FrontEnd σ π) (language source : String) (before : List Outcome)
    (s : Server σ) (o : Outcome) : Prop where
  /-- A body that is no JSON is answered by an error without an identifier. -/
  notJson : ∀ reason, o = .notJson reason →
    ∃ frame, s.framesOf f o = [frame] ∧ IsResponse .null frame ∧
      errorCode? frame = some (.int (-32700))
  /-- A request is answered under its identifier and changes no more than the phase. -/
  request : ∀ id method, o.request? = some (id, method) →
    (∃ frame, s.framesOf f o = [frame] ∧ IsResponse id frame) ∧
      ∃ phase, (s.step f o).server = { s with phase }
  /-- A notice that submits a text after the initialization is answered by the diagnostics that the
  front-end has for the text, under the document's name and with the version of the notice. -/
  submission : ∀ n u version text, before.any Outcome.initializes = true → o.notice? = some n →
    Submits language s n u version text →
    ∃ frame, s.framesOf f o = [frame] ∧ publishedUri? frame = some u.uri ∧
      publishedVersion? frame = some (.int version) ∧
      shown? frame = some (((f.run (s.session.systemFor f) (f.name u) (Text.Utf8.encode text)
        (Text.Utf8.encode text).length).2).map fun r => Shown.of source r.toDiagnostic)
  /-- Nothing else is answered. -/
  silence : (∀ reason, o ≠ .notJson reason) → o.request? = none →
    (∀ n u version text, before.any Outcome.initializes = true → o.notice? = some n →
      ¬ Submits language s n u version text) →
    s.framesOf f o = []
  /-- No outcome is answered twice. -/
  atMostOne : (s.framesOf f o).length ≤ 1

variable {before : List Outcome} {o : Outcome}

theorem Replies.of_notJson {reason : String}
    (hw : s.framesOf f (.notJson reason) =
      [Protocol.failure .null (.parseError (notJsonMessage reason))]) :
    Replies f language source before s (.notJson reason) where
  notJson := fun _ _ => ⟨_, hw, isResponse_failure _ _, errorCode?_failure _ _⟩
  request := fun _ _ hr => by cases hr
  submission := fun _ _ _ _ _ hn => by cases hn
  silence := fun hj => absurd rfl (hj reason)
  atMostOne := by rw [hw]; exact Nat.le_refl 1

theorem Replies.of_request {id : Json} {method : String} (hr : o.request? = some (id, method))
    (hw : s.framesOf f o = [(s.answer id method).1])
    (hserver : (s.step f o).server = (s.answer id method).2) :
    Replies f language source before s o where
  notJson := fun reason hj => by subst hj; cases hr
  request := by
    intro id' method' hr'
    rw [hr] at hr'
    cases hr'
    rw [hserver]
    exact ⟨⟨_, hw, isResponse_answer s id method⟩, answer_server s id method⟩
  submission := by
    intro n u version text _ hn
    rw [Outcome.request?_of_notice hn] at hr
    cases hr
  silence := by
    intro _ hnone
    rw [hnone] at hr
    cases hr
  atMostOne := by rw [hw]; exact Nat.le_refl 1

theorem Replies.of_parsed {n : DocumentNotice} {d : OpenDocument} (hs : Sound language source s)
    (hi : before.any Outcome.initializes = true) (hn : o.notice? = some n)
    (hd : s.brought? n = some d) (hl : d.document.language = language)
    (hw : s.framesOf f o = [publishDiagnostics s.source d.document.id (some d.version)
      (s.session.diagnose f d.document)]) :
    Replies f language source before s o where
  notJson := fun reason hj => by subst hj; cases hn
  request := by
    intro id method hr
    rw [Outcome.request?_of_notice hn] at hr
    cases hr
  submission := by
    intro n' u version text _ hn' hsub
    rw [hn] at hn'
    cases hn'
    rw [submits_iff hs, hd] at hsub
    cases hsub
    refine ⟨_, hw, publishedUri?_publishDiagnostics _ _ _ _,
      publishedVersion?_publishDiagnostics _ _ _ _, ?_⟩
    rw [shown?_publishDiagnostics, hs.source_eq, Session.diagnose, List.map_map]
    rfl
  silence := by
    intro _ _ hsilent
    refine absurd ?_ (hsilent n d.document.id d.version d.document.text hi hn)
    rw [submits_iff hs, hd, ← hl]
  atMostOne := by rw [hw]; exact Nat.le_refl 1

/-- Where nothing is written, nothing is due, unless the outcome is one that has to be answered. -/
theorem Replies.of_silence (hj : ∀ reason, o ≠ .notJson reason) (hr : o.request? = none)
    (hn : ∀ n u version text, before.any Outcome.initializes = true → o.notice? = some n →
      ¬ Submits language s n u version text)
    (hw : s.framesOf f o = []) : Replies f language source before s o where
  notJson := fun reason h => absurd h (hj reason)
  request := by
    intro id method hr'
    rw [hr] at hr'
    cases hr'
  submission := fun n u version text hi hn' hsub => absurd hsub (hn n u version text hi hn')
  silence := fun _ _ _ => hw
  atMostOne := by rw [hw]; exact Nat.zero_le 1

theorem Replies.of_unparsed {n : DocumentNotice} (hs : Sound language source s)
    (hn : o.notice? = some n)
    (hd : ∀ d, s.brought? n = some d → d.document.language ≠ language)
    (hw : s.framesOf f o = []) : Replies f language source before s o := by
  refine .of_silence (fun reason hj => ?_) (Outcome.request?_of_notice hn) ?_ hw
  · subst hj
    cases hn
  · intro n' u version text _ hn' hsub
    rw [hn] at hn'
    cases hn'
    exact hd _ ((submits_iff hs).mp hsub) rfl

/-- Every turn of a server that serving has led to writes what is due for its outcome. -/
theorem Reach.replies {log : List Outcome} (h : Reach f (.new language source) log s)
    (o : Outcome) : Replies f language source log s o := by
  have hs := h.sound
  have hinit : log.any Outcome.initializes = true ↔ s.phase ≠ .awaitingInitialize := by
    rw [ne_eq, h.awaiting, Bool.not_eq_false]
  have hreaction : Reaction f s o (s.framesOf f o) (s.step f o).server := (reaction_step hs o).1
  generalize hframes : s.framesOf f o = frames at hreaction
  generalize hserver : (s.step f o).server = s' at hreaction
  cases hreaction with
  | notJson reason => exact .of_notJson hframes
  | answered hr => exact .of_request hr hframes hserver
  | parsed hn hp hd hl =>
      exact .of_parsed hs (hinit.mpr hp) hn hd (hl.trans hs.language_eq) hframes
  | tracked hn hp hd hl =>
      rename_i n d
      refine .of_unparsed hs hn (fun d' hd' => ?_) hframes
      rw [hd] at hd'
      cases hd'
      rwa [← hs.language_eq]
  | closed hn hp => exact .of_unparsed hs hn (fun d hd => by cases hd) hframes
  | refused hn hp hd =>
      refine .of_unparsed hs hn (fun d hd' => ?_) hframes
      rw [hd] at hd'
      cases hd'
  | idle hj hr hn =>
      refine .of_silence hj hr (fun n u version text hi hn' _ => ?_) hframes
      rcases hn with hn | hp
      · rw [hn] at hn'
        cases hn'
      · exact absurd hp (hinit.mp hi)

/-- Wherever serving has led a server, the frames that it writes for the next stream are those for
the outcomes it reads, one after the other, and each outcome is answered as it is due. -/
theorem serve_replies {log : List Outcome} (h : Reach f (.new language source) log s)
    (input : List UInt8) :
    let read := s.heard f (outcomes input)
    (s.serve f {} input).sink.chunks = (s.framesFor f read).map Frame.encode ∧
      ∀ before o rest, read = before ++ o :: rest →
        Replies f language source (log ++ before) (s.after f before) o := by
  intro read
  exact ⟨(serve_unlimited s input).2, fun before o _ _ => (h.after before).replies o⟩

/-- With a document open, a body of one byte that is no JSON is answered by one error. -/
theorem serve_replies_notJson :
    let f := FrontEnd.memoryless fun _ _ => []
    let opening : Json := .obj [("method", .str "textDocument/didOpen"),
      ("params", .arr [.arr [.str "file:///a", .str "c", .int 3, .str "x"]])]
    let log : List Outcome :=
      [.frame (.obj [("id", .null), ("method", .str "initialize")]), .frame opening]
    let s := (Server.new "c" "check").after f log
    let input := Text.Utf8.encode "Content-Length: 1\n\nx"
    Reach f (.new "c" "check") log s ∧
      Keyed.find? ⟨"file:///a"⟩ s.documents = some ⟨⟨⟨"file:///a"⟩, "c", "x"⟩, 3⟩ ∧
      ∃ frame, (s.serve f {} input).sink.chunks = [Frame.encode frame] ∧
        IsResponse .null frame ∧ errorCode? frame = some (.int (-32700)) := by
  intro f opening log s input
  have hreach : Reach f (.new "c" "check") log s := Reach.start.after log
  obtain ⟨hchunks, hreplies⟩ := serve_replies hreach input
  have hread : (s.heard f (outcomes input)).map (· matches .notJson _) = [true, false] := by
    decide +kernel
  have hcount : (s.framesFor f (s.heard f (outcomes input))).length = 1 := by decide +kernel
  generalize s.heard f (outcomes input) = read at *
  obtain ⟨o, rest, hread, ho, -⟩ := List.map_eq_cons_iff.mp hread
  cases o with
  | notJson reason =>
      obtain ⟨frame, hframe, hresponse, hcode⟩ := (hreplies [] _ rest hread).notJson reason rfl
      have hframes : s.framesFor f read = [frame] := by
        rw [hread, framesFor, show s.framesOf f (.notJson reason) = [frame] from hframe] at hcount ⊢
        simpa using hcount
      exact ⟨hreach, by decide +kernel, frame, by rw [hchunks, hframes]; rfl, hresponse, hcode⟩
  | _ => cases ho

end Server

end DiagServer
