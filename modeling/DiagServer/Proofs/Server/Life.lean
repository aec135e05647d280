import DiagServer.Proofs.Server.Replies

/-!
# A server's life

A server serves one stream after the other, and its writers may take everything or fail. What it
does with an outcome depends on the requests that it read before, on this stream and on earlier
ones, and no more than two of those count: the first that asks for the initialization, and the first
after it that asks for the shutdown.

The writers do not matter to this. However much of a stream a server reads with a given sink, the
server afterwards is the one that reading this much leaves anyway (`serveOutcomes_readWith`). So
over many streams a server is determined by all that it read, and the phase lemmas of `Lifecycle`
apply.

That at most one initialization and one shutdown are granted comes from a conservation law. A phase
has some grants to give out; what a turn grants and what the next phase has to give make up what the
phase before had (`grant?_append_due`).
-/

namespace DiagServer

open DiagServer.Protocol DiagServer.Frame

/-- Whether a notification to exit was read. -/
def Frame.Outcome.exits (o : Outcome) : Bool := o.notification?.any fun n => n.1 = "exit"

/-- The grants that a phase still has to give out. -/
def Phase.due : Phase → List String
  | .awaitingInitialize => ["initialize", "shutdown"]
  | .running => ["shutdown"]
  | .shutdownRequested => []

namespace Server

variable {σ π : Type} {f : FrontEnd σ π} {language source : String} {s s' : Server σ}

/-! ## What is read of a stream -/

/-- The frames of what is read go to the sink up to the first that is not taken, and the server in
the end is the one that reading leaves, whether or not the last frame was taken. -/
theorem serveOutcomes_readWith (hs : Sound language source s) (sink : Sink) (os : List Outcome) :
    (s.serveOutcomes f sink os).server = s.after f (s.readWith f sink os) ∧
      (s.serveOutcomes f sink os).sink =
        (sink.putAll (s.framesFor f (s.readWith f sink os))).2 := by
  induction os generalizing s sink with
  | nil => exact ⟨rfl, rfl⟩
  | cons o rest ih =>
      have hstep := reaction_step (f := f) hs o
      rw [serveOutcomes, readWith]
      cases hdeliver : deliver sink (s.step f o).writes with
      | mk sink' cut =>
          have hput := putAll_of_deliver hdeliver
          rw [framesFor, framesOf, Sink.putAll_append, hput]
          cases cut with
          | some w => exact ⟨hstep.2 w (mem_of_deliver hdeliver), rfl⟩
          | none =>
              cases hending : (s.step f o).ending with
              | some ending => exact ⟨rfl, rfl⟩
              | none => exact ih (hs.reaction hstep.1) sink'

/-- An outcome that ends the serving without a frame is the last that is read, and the ending is
its own. -/
theorem readWith_last {sink : Sink} {os before rest : List Outcome} {o : Outcome} {ending : Ending}
    (hread : s.readWith f sink os = before ++ o :: rest)
    (hwrites : ((s.after f before).step f o).writes = [])
    (hending : ((s.after f before).step f o).ending = some ending) :
    rest = [] ∧ (s.serveOutcomes f sink os).ending = ending := by
  induction os generalizing s sink before with
  | nil => exact absurd hread (by simp [readWith])
  | cons p os ih =>
      rw [readWith] at hread
      rw [serveOutcomes]
      cases before with
      | nil =>
          obtain ⟨rfl, hrest⟩ := List.cons.inj hread
          change (s.step f p).writes = [] at hwrites
          change (s.step f p).ending = some ending at hending
          rw [hwrites, deliver] at hrest
          simp only [hending, hwrites, deliver, Option.isSome_some, if_true] at hrest ⊢
          exact ⟨hrest.symm, trivial⟩
      | cons q before =>
          obtain ⟨rfl, hrest⟩ := List.cons.inj hread
          cases hdeliver : deliver sink (s.step f p).writes with
          | mk sink' cut =>
              rw [hdeliver] at hrest
              cases cut with
              | some w => exact absurd hrest (by simp)
              | none =>
                  cases hp : (s.step f p).ending with
                  | some e => exact absurd hrest (by simp [hp])
                  | none =>
                      simp only [hp, Option.isSome_none, Bool.false_eq_true, if_false] at hrest
                      exact ih hrest hwrites hending

/-! ## One stream after the other -/

/-- The server after it served some streams, each with a sink of its own. -/
def serveStreams (f : FrontEnd σ π) (s : Server σ) : List (Sink × List UInt8) → Server σ
  | [] => s
  | (sink, input) :: streams => serveStreams f (s.serve f sink input).server streams

/-- All that a server reads of the streams that it serves. -/
def readStreams (f : FrontEnd σ π) (s : Server σ) : List (Sink × List UInt8) → List Outcome
  | [] => []
  | (sink, input) :: streams =>
      s.readWith f sink (outcomes input) ++ readStreams f (s.serve f sink input).server streams

theorem Reach.serveStreams {s₀ : Server σ} {log : List Outcome} (h : Reach f s₀ log s)
    (streams : List (Sink × List UInt8)) :
    Reach f s₀ (log ++ s.readStreams f streams) (s.serveStreams f streams) := by
  induction streams generalizing s log with
  | nil => rwa [readStreams, List.append_nil]
  | cons stream streams ih =>
      obtain ⟨sink, input⟩ := stream
      rw [readStreams, ← List.append_assoc]
      exact ih (h.serve sink input)

/-! ## Answers by history -/

/-- How a request has to be answered, by what was read before it. -/
structure Answered (history : List Outcome) (method : String) (frame : Json) : Prop where
  /-- Before the first request to initialize, nothing else is granted. -/
  before : history.any Outcome.initializes = false →
    if method = "initialize" then frame.member? "result" = some (initializeResult name version)
    else errorCode? frame = some (.int (-32002))
  /-- From then on until a shutdown is requested, only the shutdown is granted. -/
  between : history.any Outcome.initializes = true → ¬ ShutDown history →
    if method = "initialize" then errorCode? frame = some (.int (-32600))
    else if method = "shutdown" then frame.member? "result" = some .null
    else errorCode? frame = some (.int (-32601))
  /-- After that nothing is granted. -/
  after : ShutDown history → errorCode? frame = some (.int (-32600))

theorem member?_result_success (id result : Json) :
    (success id result).member? "result" = some result := by
  rw [success, Json.member?_object]
  rfl

theorem member?_result_failure (id : Json) (r : Refusal) :
    (Protocol.failure id r).member? "result" = none := by
  rw [Protocol.failure, Json.member?_object]
  rfl

theorem Reach.running {history : List Outcome} (h : Reach f (.new language source) history s)
    (hi : history.any Outcome.initializes = true) (hd : ¬ ShutDown history) :
    s.phase = .running := by
  have hawait := h.awaiting
  rw [← h.shutdownRequested] at hd
  cases hp : s.phase with
  | awaitingInitialize =>
      rw [hawait.mp hp] at hi
      cases hi
  | running => rfl
  | shutdownRequested => exact absurd hp hd

theorem Reach.answered {history : List Outcome} (h : Reach f (.new language source) history s)
    {id frame : Json} {method : String} (ha : Answer s id method frame s') :
    Answered history method frame where
  before := by
    intro hi
    have hp := h.awaiting.mpr hi
    cases ha with
    | notInitialized hp' hm => rw [if_neg hm]; exact errorCode?_failure _ _
    | initialized hp' => exact member?_result_success _ _
    | alreadyInitialized hp' | shutDown hp' | methodNotFound hp' | shuttingDown hp' =>
        cases hp.symm.trans hp'
  between := by
    intro hi hd
    have hp := h.running hi hd
    cases ha with
    | alreadyInitialized hp' => exact errorCode?_failure _ _
    | shutDown hp' => exact member?_result_success _ _
    | methodNotFound hp' hi' hs => rw [if_neg hi', if_neg hs]; exact errorCode?_failure _ _
    | notInitialized hp' | initialized hp' | shuttingDown hp' => cases hp.symm.trans hp'
  after := by
    intro hd
    have hp := h.shutdownRequested.mpr hd
    cases ha with
    | shuttingDown hp' => exact errorCode?_failure _ _
    | notInitialized hp' | initialized hp' | alreadyInitialized hp' | shutDown hp'
    | methodNotFound hp' => cases hp.symm.trans hp'

/-! ## What is granted -/

/-- The method of a request that was read, if the answer is a result. -/
def grant? (f : FrontEnd σ π) (s : Server σ) (o : Outcome) : Option String :=
  if (s.framesOf f o).any fun frame => (frame.member? "result").isSome then o.request?.map (·.2)
  else none

/-- The methods of the requests that are answered by a result, in the order of the requests. -/
def granted (f : FrontEnd σ π) (s : Server σ) : List Outcome → List String
  | [] => []
  | o :: rest => (s.grant? f o).toList ++ granted f (s.step f o).server rest

/-- An answer is a result exactly if the phase has it to give, and then it has it no longer. -/
theorem Answer.due {id frame : Json} {method : String} (h : Answer s id method frame s') :
    (if (frame.member? "result").isSome then [method] else []) ++ s'.phase.due = s.phase.due := by
  cases h with
  | initialized hp => rw [member?_result_success, hp]; rfl
  | shutDown hp => rw [member?_result_success, hp]; rfl
  | _ => rw [member?_result_failure]; rfl

theorem grant?_append_due (hs : Sound language source s) (o : Outcome) :
    (s.grant? f o).toList ++ (s.step f o).server.phase.due = s.phase.due := by
  have hr : Reaction f s o (s.framesOf f o) (s.step f o).server := (reaction_step hs o).1
  cases ho : o.request? with
  | none =>
      have hnone : s.grant? f o = none := by
        rw [grant?, ho]
        split
        · rfl
        · rfl
      rw [hnone, hr.phase_of_none ho]
      rfl
  | some r =>
      obtain ⟨id, method⟩ := r
      obtain ⟨hframes, hserver⟩ := hr.of_request ho
      rw [grant?, hframes, hserver, ho, ← (answer_cases s id method).due]
      simp only [List.any_cons, List.any_nil, Bool.or_false, Option.map_some]
      split
      · rfl
      · rfl

/-- All that is granted while some outcomes are read, and what is still due then, is what was due
before. -/
theorem granted_append_due (hs : Sound language source s) (os : List Outcome) :
    s.granted f os ++ (s.after f os).phase.due = s.phase.due := by
  induction os generalizing s with
  | nil => rfl
  | cons o rest ih =>
      rw [granted, List.append_assoc, ← grant?_append_due (f := f) hs o]
      exact congrArg _ (ih (hs.reaction (reaction_step hs o).1))

/-! ## The exit -/

theorem step_of_exits {o : Outcome} (h : o.exits = true) :
    s.step f o = { writes := [], server := s, ending := some (.exit s.leave) } := by
  cases o with
  | frame v =>
      cases hn : (Outcome.frame v).notification? with
      | none =>
          rw [Outcome.exits, hn] at h
          cases h
      | some n =>
          obtain ⟨method, params⟩ := n
          have hexit : method = "exit" := by simpa [Outcome.exits, hn] using h
          rw [step, receive_notification hn, if_pos hexit]
  | notJson reason => cases h
  | broken e => cases h
  | ended => cases h

theorem step_of_awaiting (hs : Sound language source s) (hp : s.phase = .awaitingInitialize)
    {o : Outcome} (ho : o.request? = none) : (s.step f o).server = s := by
  have hr := (reaction_step (f := f) hs o).1
  generalize (s.step f o).writes.map (·.frame) = frames, (s.step f o).server = s' at hr
  cases hr with
  | notJson reason => rfl
  | answered hr' =>
      rw [ho] at hr'
      cases hr'
  | parsed hn hp' hd hl => exact absurd hp hp'
  | tracked hn hp' hd hl => exact absurd hp hp'
  | closed hn hp' => exact absurd hp hp'
  | refused hn hp' hd => rfl
  | idle hj hr' hn => rfl

/-- However many streams a server served, with whatever writers, it serves the next one by the
history of its requests. The frames go out for one outcome after the other, until one is not
taken. A request is answered as the requests before it demand, so that over the whole life at most
one initialization and after it at most one shutdown are granted. What is no request changes
nothing before the initialization was requested. The exit is the last that is read, nothing is
written for it, and it is clean exactly if the shutdown was requested by then. -/
theorem serve_by_history (f : FrontEnd σ π) (language source : String)
    (streams : List (Sink × List UInt8)) (sink : Sink) (input : List UInt8) :
    let s := (Server.new language source).serveStreams f streams
    let log := (Server.new language source).readStreams f streams
    let read := s.readWith f sink (outcomes input)
    let served := s.serve f sink input
    read <+: outcomes input ∧ served.server = s.after f read ∧
      served.sink = (sink.putAll (s.framesFor f read)).2 ∧
      (Server.new language source).granted f (log ++ read) <+: ["initialize", "shutdown"] ∧
      ∀ before o rest, read = before ++ o :: rest →
        let history := log ++ before
        let now := s.after f before
        (∀ id method, o.request? = some (id, method) →
          ∃ frame, now.framesOf f o = [frame] ∧ IsResponse id frame ∧
            Answered history method frame) ∧
        (history.any Outcome.initializes = false → o.request? = none →
          (now.step f o).server = now) ∧
        (o.exits = true → rest = [] ∧ now.framesOf f o = [] ∧
          (ShutDown history → served.ending = .exit .clean) ∧
          (¬ ShutDown history → served.ending = .exit .withoutShutdown)) := by
  intro s log read served
  have hreach : Reach f (.new language source) log s := Reach.start.serveStreams streams
  obtain ⟨hserver, hsink⟩ := serveOutcomes_readWith (f := f) hreach.sound sink (outcomes input)
  refine ⟨isPrefix_readWith s sink _, hserver, hsink, ?_, fun before o rest hread => ?_⟩
  · exact ⟨_, granted_append_due (.new language source) (log ++ read)⟩
  · intro history now
    have hnow : Reach f (.new language source) history now := hreach.after before
    refine ⟨fun id method hr => ?_, fun hi hr => ?_, fun hexits => ?_⟩
    · obtain ⟨hframes, -⟩ := (reaction_step hnow.sound o).1.of_request hr
      exact ⟨_, hframes, isResponse_answer now id method,
        hnow.answered (answer_cases now id method)⟩
    · exact step_of_awaiting hnow.sound (hnow.awaiting.mpr hi) hr
    · have hstep : now.step f o = _ := step_of_exits hexits
      obtain ⟨hrest, hending⟩ := readWith_last hread (by rw [hstep]) (by rw [hstep])
      refine ⟨hrest, by rw [framesOf, hstep]; rfl, fun hd => ?_, fun hd => ?_⟩
      · exact hending.trans (by rw [leave, if_pos (hnow.shutdownRequested.mpr hd)])
      · exact hending.trans (by rw [leave, if_neg (fun hp => hd (hnow.shutdownRequested.mp hp))])

end Server

end DiagServer
