import DiagServer.Proofs.Frame.Stream
import DiagServer.Proofs.Server.Noninterference
import DiagServer.Proofs.Server.Replies

/-!
# What a server ignores

Much of what a client may send has no effect, and each kind is turned away at a place of its own: a
body that is no JSON before there is a message, a response when there is no request and no
notification in it, a notification by its method or by its parameters, and a change or a closing by
what is open. `Ignored` lists the kinds, and `Ignored.step` is all that the rest needs: where such a
message stands, the server stays what it was, and nothing is written but the complaint about a body
that is no JSON.

Whether a change is ignored depends on the documents that are open where it stands. But what is
ignored leaves these documents as they are, so that the servers of two runs, of which one reads what
the other does not, are the same at every place that they have in common; `Interspersed` goes along
with this server.
-/

namespace DiagServer

open DiagServer.Protocol DiagServer.Frame

namespace Server

variable {σ π : Type} {f : FrontEnd σ π} {language source : String} {s : Server σ} {o : Outcome}

/-- What has no effect on a server that reads it. -/
inductive Ignored (s : Server σ) : Outcome → Prop
  /-- A body that is no JSON. -/
  | notJson (reason : String) : Ignored s (.notJson reason)
  /-- A value that is neither a request nor a notification, as a response is. -/
  | noMessage {v : Json} (hr : (Outcome.frame v).request? = none)
      (hn : (Outcome.frame v).notification? = none) : Ignored s (.frame v)
  /-- A notification by a method that is not known. -/
  | unknown {o : Outcome} {method : String} {params : Option Json}
      (hn : o.notification? = some (method, params))
      (hm : method ∉ ["exit", "textDocument/didOpen", "textDocument/didChange",
        "textDocument/didClose"]) : Ignored s o
  /-- A notification about a document, with parameters that are missing or do not fit. -/
  | unreadable {o : Outcome} {method : String} {params : Option Json}
      (hn : o.notification? = some (method, params))
      (hm : method ∈ ["textDocument/didOpen", "textDocument/didChange", "textDocument/didClose"])
      (hp : DocumentNotice.ofNotification? method params = none) : Ignored s o
  /-- A change of a document that is not open. -/
  | changeNotOpen {o : Outcome} {p : DidChange} (hn : o.notice? = some (.changed p))
      (hd : Keyed.find? ⟨p.uri⟩ s.documents = none) : Ignored s o
  /-- A change of a part of a text, whatever other changes come with it. -/
  | changeOfPart {o : Outcome} {p : DidChange} {c : ContentChange}
      (hn : o.notice? = some (.changed p)) (hc : c ∈ p.changes) (hp : c.isPartial = true) :
      Ignored s o
  /-- A change that changes nothing. -/
  | noChanges {o : Outcome} {p : DidChange} (hn : o.notice? = some (.changed p))
      (hc : p.changes = []) : Ignored s o
  /-- The closing of a document that is not open. -/
  | closeNotOpen {o : Outcome} {p : DidClose} (hn : o.notice? = some (.closed p))
      (hd : Keyed.find? ⟨p.uri⟩ s.documents = none) : Ignored s o

/-! ## One message -/

theorem step_of_notify {method : String} {params : Option Json}
    (hs : Sound language source s) (hn : o.notification? = some (method, params))
    (hm : method ≠ "exit") (h : s.notify f method params = s) :
    s.step f o = { writes := [], server := s } := by
  cases o with
  | frame v => rw [step, receive_notification hn, if_neg hm, h, publishChanges_settled hs.settled]
  | notJson reason => cases hn
  | broken e => cases hn
  | ended => cases hn

theorem step_of_notice {n : DocumentNotice} (hs : Sound language source s)
    (hn : o.notice? = some n) (h : s.notice f n = s) :
    s.step f o = { writes := [], server := s } := by
  obtain ⟨⟨method, params⟩, hnotification, hof⟩ := Option.bind_eq_some_iff.mp hn
  refine step_of_notify hs hnotification ?_ ?_
  · rintro rfl
    simp [ofNotification?_exit] at hof
  · by_cases hp : s.phase = .awaitingInitialize
    · exact notify_of_none (.inr hp)
    · rw [notify_of_notice hof hp, h]

theorem newText?_eq_none {changes : List ContentChange} {c : ContentChange} (hc : c ∈ changes)
    (hp : c.isPartial = true) : newText? changes = none := by
  rw [newText?, if_pos (List.any_eq_true.mpr ⟨c, hc, hp⟩)]

theorem brought?_changed_eq_none {p : DidChange}
    (h : Keyed.find? ⟨p.uri⟩ s.documents = none ∨ newText? p.changes = none) :
    s.brought? (.changed p) = none := by
  rw [brought?]
  split
  · next hd ht => rcases h with h | h <;> simp_all
  · rfl

theorem ofNotification?_eq_none {method : String} (params : Option Json)
    (hm : method ∉ ["exit", "textDocument/didOpen", "textDocument/didChange",
      "textDocument/didClose"]) : DocumentNotice.ofNotification? method params = none := by
  simp only [List.mem_cons, List.not_mem_nil, or_false, not_or] at hm
  rw [DocumentNotice.ofNotification?, if_neg hm.2.1, if_neg hm.2.2.1, if_neg hm.2.2.2]

theorem step_of_ignored (hs : Sound language source s) (h : s.Ignored o)
    (hj : ∀ reason, o ≠ .notJson reason) : s.step f o = { writes := [], server := s } := by
  cases h with
  | notJson reason => exact absurd rfl (hj reason)
  | noMessage hr hn => exact receive_other hr hn hs
  | unknown hn hm =>
      refine step_of_notify hs hn ?_ (notify_of_none (.inl (ofNotification?_eq_none _ hm)))
      rintro rfl
      exact hm List.mem_cons_self
  | unreadable hn hm hp =>
      refine step_of_notify hs hn ?_ (notify_of_none (.inl hp))
      rintro rfl
      exact absurd hm (by decide)
  | changeNotOpen hn hd =>
      exact step_of_notice hs hn (notice_refused (brought?_changed_eq_none (.inl hd)))
  | changeOfPart hn hc hp =>
      have htext := newText?_eq_none hc hp
      exact step_of_notice hs hn (notice_refused (brought?_changed_eq_none (.inr htext)))
  | noChanges hn hc =>
      have htext : newText? _ = none := congrArg newText? hc
      exact step_of_notice hs hn (notice_refused (brought?_changed_eq_none (.inr htext)))
  | closeNotOpen hn hd =>
      refine step_of_notice hs hn ?_
      rw [notice, didClose, Keyed.erase_eq_self hd]

/-- What is read in a turn and written for it is a complaint or nothing: an error under the null
identifier for a body that is no JSON, and for all else no frame. -/
structure Complains (turn : Outcome × List Json) : Prop where
  notJson : ∀ reason, turn.1 = .notJson reason →
    ∃ frame, turn.2 = [frame] ∧ IsResponse .null frame ∧ errorCode? frame = some (.int (-32700))
  otherwise : (∀ reason, turn.1 ≠ .notJson reason) → turn.2 = []

/-- Where a message is ignored the server stays as it is and goes on serving, and it writes nothing
but the complaint about a body that is no JSON. -/
theorem Ignored.step (hs : Sound language source s) (h : s.Ignored o) :
    (s.step f o).server = s ∧ (s.step f o).ending = none ∧ Complains (o, s.framesOf f o) := by
  by_cases hj : ∃ reason, o = .notJson reason
  · obtain ⟨reason, rfl⟩ := hj
    refine ⟨rfl, rfl, fun _ _ => ?_, fun hne => absurd rfl (hne reason)⟩
    exact ⟨_, rfl, isResponse_failure _ _, errorCode?_failure _ _⟩
  · have hne : ∀ reason, o ≠ .notJson reason := fun reason hr => hj ⟨reason, hr⟩
    have hstep := step_of_ignored (f := f) hs h hne
    rw [framesOf, hstep]
    exact ⟨rfl, rfl, fun reason hr => absurd hr (hne reason), fun _ => rfl⟩

/-! ## Two sessions -/

/-- The messages of a session, and the same messages with others among them that the server ignores
where they stand. The server goes along; what stands behind the end of the session is not read. -/
inductive Interspersed (f : FrontEnd σ π) :
    Server σ → List (List UInt8) → List (List UInt8) → Prop
  | nil (s : Server σ) : Interspersed f s [] []
  | sent {s : Server σ} {m body : List UInt8} {plain mixed : List (List UInt8)}
      (hm : Accepts m body []) (h : Interspersed f (s.step f (decoded body)).server plain mixed) :
      Interspersed f s (m :: plain) (m :: mixed)
  | inserted {s : Server σ} {m body : List UInt8} {plain mixed : List (List UInt8)}
      (hm : Accepts m body []) (hi : s.Ignored (decoded body)) (h : Interspersed f s plain mixed) :
      Interspersed f s plain (m :: mixed)

/-- The turns of serving some outcomes: what is read in each of them, and the frames for it. -/
def turns (f : FrontEnd σ π) (s : Server σ) : List Outcome → List (Outcome × List Json)
  | [] => []
  | o :: rest => (o, s.framesOf f o) :: turns f (s.step f o).server rest

theorem flatMap_turns (s : Server σ) (os : List Outcome) :
    (s.turns f os).flatMap (·.2) = s.framesFor f os := by
  induction os generalizing s with
  | nil => rfl
  | cons o rest ih => rw [turns, List.flatMap_cons, ih, framesFor]

/-- A server that reads some messages more, which it ignores, is the same server in the end, it ends
alike, and its turns are the same but for those of these messages. -/
theorem heard_interspersed (hs : Sound language source s) {plain mixed : List (List UInt8)}
    (h : Interspersed f s plain mixed) (tail : List UInt8) :
    let heard := s.heard f (outcomes (plain.flatten ++ tail))
    let heard' := s.heard f (outcomes (mixed.flatten ++ tail))
    s.after f heard' = s.after f heard ∧
      s.endingFor f (outcomes (mixed.flatten ++ tail)) =
        s.endingFor f (outcomes (plain.flatten ++ tail)) ∧
      Thinned Complains (s.turns f heard') (s.turns f heard) := by
  induction h with
  | nil s => exact ⟨rfl, rfl, .refl _⟩
  | sent hm h ih =>
      rename_i s m body plain mixed
      rw [List.flatten_cons, List.flatten_cons, List.append_assoc, List.append_assoc,
        outcomes_of_accepts (hm.append _), outcomes_of_accepts (hm.append _), heard, heard,
        endingFor, endingFor]
      cases (s.step f (decoded body)).ending with
      | some ending => exact ⟨rfl, rfl, .refl _⟩
      | none =>
          obtain ⟨hserver, hending, hturns⟩ := ih (hs.reaction (reaction_step hs _).1)
          exact ⟨hserver, hending, .keep _ hturns⟩
  | inserted hm hi h ih =>
      rename_i s m body plain mixed
      obtain ⟨hstays, hgoesOn, hcomplains⟩ := hi.step (f := f) hs
      obtain ⟨hserver, hending, hturns⟩ := ih hs
      rw [List.flatten_cons, List.append_assoc, outcomes_of_accepts (hm.append _), heard, endingFor,
        hgoesOn, hstays]
      refine ⟨?_, hending, ?_⟩
      · rw [after, List.foldl_cons, hstays]
        exact hserver
      · rw [turns, hstays]
        exact .drop _ hcomplains hturns

/-- Wherever serving has led a server, let it serve a stream of messages, and the same stream with
others among the messages that the server ignores where they stand, whatever comes behind them. It
is the same server in the end, with its documents, store, phase and system, and it ends alike. It
writes the frames of its turns, and without the turns of what was ignored, each of which is a
complaint or nothing, they are turn by turn those of the first stream. -/
theorem serve_interspersed {log : List Outcome} (h : Reach f (.new language source) log s)
    {plain mixed : List (List UInt8)} (hi : Interspersed f s plain mixed) (tail : List UInt8) :
    let served := s.serve f {} (plain.flatten ++ tail)
    let served' := s.serve f {} (mixed.flatten ++ tail)
    let turns := s.turns f (s.heard f (outcomes (plain.flatten ++ tail)))
    let turns' := s.turns f (s.heard f (outcomes (mixed.flatten ++ tail)))
    served'.server = served.server ∧ served'.ending = served.ending ∧
      served.sink.chunks = (turns.flatMap (·.2)).map Frame.encode ∧
      served'.sink.chunks = (turns'.flatMap (·.2)).map Frame.encode ∧
      Thinned Complains turns' turns := by
  intro served served' turns turns'
  obtain ⟨hserver, hending, hturns⟩ := heard_interspersed h.sound hi tail
  have hserved : served = _ := serve_free s (plain.flatten ++ tail)
  have hserved' : served' = _ := serve_free s (mixed.flatten ++ tail)
  refine ⟨?_, ?_, ?_, ?_, hturns⟩
  · rw [hserved, hserved']
    exact hserver
  · rw [hserved, hserved']
    exact hending
  · rw [flatMap_turns]
    exact (serve_unlimited s _).2
  · rw [flatMap_turns]
    exact (serve_unlimited s _).2

/-- With a document open, a change of a part of it and a body that is no JSON before the exit. -/
theorem serve_interspersed_exit :
    let f := FrontEnd.memoryless fun _ _ => []
    let opening : Json := .obj [("method", .str "textDocument/didOpen"),
      ("params", .arr [.arr [.str "file:///a", .str "c", .int 3, .str "x"]])]
    let log : List Outcome :=
      [.frame (.obj [("id", .null), ("method", .str "initialize")]), .frame opening]
    let s := (Server.new "c" "check").after f log
    let change : Json := .obj [("method", .str "textDocument/didChange"),
      ("params", .arr [.arr [.str "file:///a", .int 4], .arr [.arr [.int 0, .str "y"]]])]
    let faulty := Text.Utf8.encode "Content-Length: 1\n\nx"
    let exit := Frame.encode (.obj [("method", .str "exit")])
    let plain := [exit]
    let mixed := [Frame.encode change, faulty, exit]
    let served := s.serve f {} (plain.flatten ++ [])
    let served' := s.serve f {} (mixed.flatten ++ [])
    (Reach f (.new "c" "check") log s ∧ Interspersed f s plain mixed) ∧
      served'.server = served.server ∧ served'.ending = served.ending := by
  intro f opening log s change faulty exit plain mixed served served'
  have hreach : Reach f (.new "c" "check") log s := Reach.start.after log
  have hdocument : Json.Portable 125 (.arr [.str "file:///a", .int 4]) :=
    .arr (List.forall_mem_cons.mpr
      ⟨.str _, List.forall_mem_singleton.mpr (.int (by decide) (by decide))⟩)
  have hpart : Json.Portable 124 (.arr [.int 0, .str "y"]) :=
    .arr (List.forall_mem_cons.mpr
      ⟨.int (by decide) (by decide), List.forall_mem_singleton.mpr (.str _)⟩)
  have hparts : Json.Portable 125 (.arr [.arr [.int 0, .str "y"]]) :=
    .arr (List.forall_mem_singleton.mpr hpart)
  have hportable : Json.Portable 127 change := by
    rw [show change = Json.object _ from (Json.object_of_sorted (by decide) (by decide)).symm]
    refine .object (by decide) (List.forall_mem_cons.mpr ⟨.str _, ?_⟩)
    refine List.forall_mem_singleton.mpr (.arr (List.forall_mem_cons.mpr ⟨hdocument, ?_⟩))
    exact List.forall_mem_singleton.mpr hparts
  have hchange : s.Ignored (decoded change.encode) := by
    rw [decoded, hportable.parse_encode]
    exact .changeOfPart (p := ⟨"file:///a", 4, [⟨true, "y"⟩]⟩) (by decide +kernel)
      List.mem_cons_self rfl
  have hframe : ∀ v : Json, v.encode.length ≤ 16777216 → Accepts (Frame.encode v) v.encode [] := by
    intro v hv
    simpa using accepts_encode hv []
  have hfaulty : ∃ body, Accepts faulty body [] ∧ s.Ignored (decoded body) := by
    obtain ⟨reason, hread⟩ := read_notJson
    obtain ⟨body, hbody, hdecoded⟩ := accepts_of_read hread rfl
    exact ⟨body, hbody, hdecoded ▸ .notJson reason⟩
  obtain ⟨body, hbody, hignored⟩ := hfaulty
  have hexit : Interspersed f s plain [exit] := .sent (hframe _ (by decide +kernel)) (.nil _)
  have hmixed : Interspersed f s plain mixed :=
    .inserted (hframe change (by decide +kernel)) hchange (.inserted hbody hignored hexit)
  obtain ⟨hserver, hending, -⟩ := serve_interspersed hreach hmixed []
  exact ⟨⟨hreach, hmixed⟩, hserver, hending⟩

end Server

end DiagServer
