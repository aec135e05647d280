import DiagServer.Proofs.Frame.RoundTrip
import DiagServer.Proofs.Server.Share

/-!
# Documents do not disturb each other

The share that a document has in a server takes no notice of other documents. So two servers with
the same share, of which one reads some notices about other documents that the other does not read,
keep the same share and write the same frames as far as the document is concerned. Whether a turn
ends the serving depends on the phase, which is in the share, so they end alike too. All of that is
the induction in `heard_thinned`; framing is no obstacle, since each message is read by itself.
-/

namespace DiagServer

open DiagServer.Protocol DiagServer.Frame DiagServer.Client

namespace Server

variable {σ π : Type} {f : FrontEnd σ π} {s t : Server σ} {o : Outcome}

/-! ## The end of a turn -/

/-- Whether a turn ends the serving, and how, depends on the phase only. -/
theorem ending_of_phase (h : s.phase = t.phase) (o : Outcome) :
    (s.step f o).ending = (t.step f o).ending := by
  cases o with
  | frame v =>
      rw [step, step, receive, receive]
      split
      · rfl
      · split
        · rw [leave, leave, h]
        · rfl
      · rfl
      · rfl
  | notJson reason => rfl
  | broken e => rfl
  | ended => rfl

theorem ending_of_notice {n : DocumentNotice} (hn : o.notice? = some n) :
    (s.step f o).ending = none := by
  cases o with
  | frame v =>
      obtain ⟨⟨method, params⟩, hnotification, hof⟩ := Option.bind_eq_some_iff.mp hn
      have hexit : method ≠ "exit" := by
        rintro rfl
        simp [ofNotification?_exit] at hof
      rw [step, receive_notification hnotification, if_neg hexit]
      rfl
  | notJson reason => cases hn
  | broken e => cases hn
  | ended => cases hn

/-! ## Two runs -/

end Server

/-- The second list is the first without some elements that have the property. -/
inductive Thinned {α : Type} (P : α → Prop) : List α → List α → Prop
  | nil : Thinned P [] []
  | keep {as bs : List α} (a : α) (h : Thinned P as bs) : Thinned P (a :: as) (a :: bs)
  | drop {as bs : List α} (a : α) (ha : P a) (h : Thinned P as bs) : Thinned P (a :: as) bs

theorem Thinned.refl {α : Type} {P : α → Prop} (as : List α) : Thinned P as as := by
  induction as with
  | nil => exact .nil
  | cons a as ih => exact .keep a ih

namespace Server

variable {σ π : Type} {f : FrontEnd σ π} {report : String → List UInt8 → List Report}
  {diagnose : TextDocument → List Diagnostic} {language source : String} {s t : Server σ}
  {u : DocumentId}

/-- Two servers that agree on a document still do after a run in which one of them reads some
notices about other documents that the other does not read; they wrote the same about the document,
and they end alike. -/
theorem heard_thinned (hf : ∀ s d, Session.diagnose f s d = diagnose d) {os os' : List Outcome}
    (h : Thinned (Outcome.IsElsewhere u) os os') (hs : Sound language source s)
    (ht : Sound language source t) (hst : s.share u = t.share u) :
    (s.after f (s.heard f os)).share u = (t.after f (t.heard f os')).share u ∧
      concerning u (s.framesFor f (s.heard f os)) =
        concerning u (t.framesFor f (t.heard f os')) ∧
      s.endingFor f os = t.endingFor f os' := by
  induction h generalizing s t with
  | nil => exact ⟨hst, rfl, rfl⟩
  | keep o h ih =>
      -- Both shares are the same, so their turns are, and with the phase also the endings.
      have hrs := reaction_step (f := f) hs o
      have hrt := reaction_step (f := f) ht o
      have hturn := (hrs.1.share hf hs u).trans (hst ▸ (hrt.1.share hf ht u).symm)
      have hending := ending_of_phase (f := f) (congrArg Share.phase hst) o
      obtain ⟨hshare, hframes⟩ := Prod.mk.inj hturn
      rw [Server.heard, Server.heard, endingFor, endingFor, hending]
      cases (t.step f o).ending with
      | some ending => exact ⟨hshare, by simpa [framesFor, framesOf] using hframes, rfl⟩
      | none =>
          obtain ⟨hshare', hframes', hending'⟩ := ih (hs.reaction hrs.1) (ht.reaction hrt.1) hshare
          refine ⟨hshare', ?_, hending'⟩
          simp only [Option.isSome_none, Bool.false_eq_true, if_false, framesFor, framesOf,
            concerning_append]
          rw [hframes, hframes']
  | drop o ho h ih =>
      -- Only the first server moves, and its share stays where it is.
      have hrs := reaction_step (f := f) hs o
      have hturn := (hrs.1.share hf hs u).trans (turn_of_elsewhere _ ho)
      obtain ⟨hshare, hframes⟩ := Prod.mk.inj hturn
      obtain ⟨n, hn, -⟩ := ho
      rw [Server.heard, endingFor, ending_of_notice hn]
      obtain ⟨hshare', hframes', hending'⟩ := ih (hs.reaction hrs.1) ht (hshare.trans hst)
      refine ⟨hshare', ?_, hending'⟩
      simp only [Option.isSome_none, Bool.false_eq_true, if_false, framesFor, framesOf,
        concerning_append]
      rw [hframes, hframes', List.nil_append]

/-- The outcomes of a stream of well-framed messages without some that are about other documents
are the outcomes of the whole stream without those of these messages. -/
theorem outcomes_thinned {messages kept : List (List UInt8)}
    (hm : ∀ m ∈ messages, ∃ body, Accepts m body [])
    (h : Thinned (fun m => ∃ body, Accepts m body [] ∧ (decoded body).IsElsewhere u) messages kept)
    (tail : List UInt8) :
    Thinned (Outcome.IsElsewhere u) (Frame.outcomes (messages.flatten ++ tail))
      (Frame.outcomes (kept.flatten ++ tail)) := by
  induction h with
  | nil => exact .refl _
  | keep m h ih =>
      rw [List.forall_mem_cons] at hm
      obtain ⟨body, hbody⟩ := hm.1
      rw [List.flatten_cons, List.flatten_cons, List.append_assoc, List.append_assoc,
        outcomes_of_accepts (hbody.append _), outcomes_of_accepts (hbody.append _)]
      exact .keep _ (ih hm.2)
  | drop m hdrop h ih =>
      rw [List.forall_mem_cons] at hm
      obtain ⟨body, hbody, helsewhere⟩ := hdrop
      rw [List.flatten_cons, List.append_assoc, outcomes_of_accepts (hbody.append _)]
      exact .drop _ helsewhere (ih hm.2)

/-- With a front-end that reports by the name and the bytes of a file, take any notices about other
documents out of a stream of well-framed messages, whatever comes behind them. Then a new server
publishes the same for the document, contents, versions and order alike, answers the same, tracks
and stores the same for the document, and ends in the same way. -/
theorem serve_thinned (hf : f.Reports report) (language source : String) (u : DocumentId)
    {messages kept : List (List UInt8)} (hm : ∀ m ∈ messages, ∃ body, Accepts m body [])
    (h : Thinned (fun m => ∃ body, Accepts m body [] ∧ (decoded body).IsElsewhere u) messages kept)
    (tail : List UInt8) :
    let s : Server σ := .new language source
    let full := s.serve f {} (messages.flatten ++ tail)
    let thin := s.serve f {} (kept.flatten ++ tail)
    let frames := s.framesFor f (s.heard f (outcomes (messages.flatten ++ tail)))
    let frames' := s.framesFor f (s.heard f (outcomes (kept.flatten ++ tail)))
    full.sink.chunks = frames.map Frame.encode ∧ thin.sink.chunks = frames'.map Frame.encode ∧
      publicationsFor u frames = publicationsFor u frames' ∧ responses frames = responses frames' ∧
      Keyed.find? u full.server.documents = Keyed.find? u thin.server.documents ∧
      full.server.session.store.get? u = thin.server.session.store.get? u ∧
      full.ending = thin.ending := by
  intro s full thin frames frames'
  have hs : Sound language source s := .new language source
  have hfull : full = _ := serve_free s (messages.flatten ++ tail)
  have hthin : thin = _ := serve_free s (kept.flatten ++ tail)
  obtain ⟨hshare, hframes, hending⟩ := heard_thinned
    (Session.diagnose_of_reports hf) (outcomes_thinned hm h tail) hs hs rfl
  refine ⟨(serve_unlimited s _).2, (serve_unlimited s _).2, ?_, ?_, ?_, ?_, ?_⟩
  · rw [← publicationsFor_concerning, hframes, publicationsFor_concerning]
  · rw [← responses_concerning u, hframes, responses_concerning]
  · rw [hfull, hthin]
    exact congrArg Share.document hshare
  · rw [hfull, hthin]
    exact congrArg Share.diagnostics hshare
  · rw [hfull, hthin]
    exact hending

/-- Two documents are opened; without the one, the other is published and tracked as before. -/
theorem serve_thinned_opened :
    let u : DocumentId := ⟨"file:///a"⟩
    let f := FrontEnd.memoryless fun _ _ => []
    let s : Server Unit := .new "c" "check"
    let request : Json := .obj [("id", .int 1), ("method", .str "initialize")]
    let opening (uri : String) : Json := .obj [("method", .str "textDocument/didOpen"),
      ("params", .arr [.arr [.str uri, .str "c", .int 1, .str "x"]])]
    let messages := [request, opening "file:///b", opening "file:///a"].map Frame.encode
    let kept := [request, opening "file:///a"].map Frame.encode
    (f.Reports (fun _ _ => []) ∧ (∀ m ∈ messages, ∃ body, Accepts m body []) ∧
      Thinned (fun m => ∃ body, Accepts m body [] ∧ (decoded body).IsElsewhere u) messages kept) ∧
      let frames := s.framesFor f (s.heard f (outcomes (messages.flatten ++ [])))
      let frames' := s.framesFor f (s.heard f (outcomes (kept.flatten ++ [])))
      publicationsFor u frames = publicationsFor u frames' ∧
        responses frames = responses frames' ∧
        Keyed.find? u (s.serve f {} (messages.flatten ++ [])).server.documents =
          Keyed.find? u (s.serve f {} (kept.flatten ++ [])).server.documents := by
  intro u f s request opening messages kept
  have hframe : ∀ v : Json, v.encode.length ≤ 16777216 → Accepts (Frame.encode v) v.encode [] := by
    intro v hv
    simpa using accepts_encode hv []
  have hi := hframe request (by decide +kernel)
  have ha := hframe (opening "file:///a") (by decide +kernel)
  have hb := hframe (opening "file:///b") (by decide +kernel)
  have hportable : Json.Portable 127 (opening "file:///b") := by
    rw [show opening "file:///b" = Json.object _ from
      (Json.object_of_sorted (by decide) (by decide)).symm]
    refine .object (by decide) fun m hm => ?_
    simp only [List.mem_cons, List.not_mem_nil, or_false] at hm
    rcases hm with rfl | rfl
    · exact .str _
    · refine .arr fun w hw => ?_
      cases List.mem_singleton.mp hw
      refine .arr fun w hw => ?_
      simp only [List.mem_cons, List.not_mem_nil, or_false] at hw
      rcases hw with rfl | rfl | rfl | rfl
      · exact .str _
      · exact .str _
      · exact .int (by decide) (by decide)
      · exact .str _
  have helsewhere : (decoded (opening "file:///b").encode).IsElsewhere u := by
    rw [decoded, hportable.parse_encode]
    exact ⟨.opened ⟨"file:///b", "c", 1, "x"⟩, by decide +kernel, by decide⟩
  have hreports : f.Reports (fun _ _ => []) := FrontEnd.memoryless_reports _
  have hm : ∀ m ∈ messages, ∃ body, Accepts m body [] := by
    intro m hm
    obtain ⟨v, hv, rfl⟩ := List.mem_map.mp hm
    simp only [List.mem_cons, List.not_mem_nil, or_false] at hv
    rcases hv with rfl | rfl | rfl
    · exact ⟨_, hi⟩
    · exact ⟨_, hb⟩
    · exact ⟨_, ha⟩
  have hthinned : Thinned (fun m => ∃ body, Accepts m body [] ∧ (decoded body).IsElsewhere u)
      messages kept := .keep _ (.drop _ ⟨_, hb, helsewhere⟩ (.keep _ .nil))
  obtain ⟨-, -, hpublished, hanswered, htracked, -⟩ :=
    serve_thinned hreports "c" "check" u hm hthinned []
  exact ⟨⟨hreports, hm, hthinned⟩, hpublished, hanswered, htracked⟩

end Server

end DiagServer
