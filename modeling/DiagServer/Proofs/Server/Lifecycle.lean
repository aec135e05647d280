import DiagServer.Proofs.Server.Run

/-!
# The phase as a summary of the requests

A server stands where its requests put it: notifications, faulty bodies and ended streams leave the
phase alone, and a request moves it as `answer` says. So a server waits for its initialization
exactly as long as no request to initialize was read, over all its streams, and it is shutting down
as soon as a shutdown was requested after one.
-/

namespace DiagServer

open DiagServer.Protocol DiagServer.Frame

/-- Whether a request to initialize was read. -/
def Frame.Outcome.initializes (o : Outcome) : Bool := o.request?.any fun r => r.2 = "initialize"

/-- Whether a request to shut down was read. -/
def Frame.Outcome.shutsDown (o : Outcome) : Bool := o.request?.any fun r => r.2 = "shutdown"

theorem Frame.Outcome.request?_of_notice {o : Outcome} {n : DocumentNotice}
    (h : o.notice? = some n) : o.request? = none := by
  cases o with
  | frame v =>
      simp only [notice?, notification?] at h
      simp only [request?]
      split at h
      · next hid hmethod => rw [hid]
      · cases h
  | notJson reason => rfl
  | broken e => rfl
  | ended => rfl

theorem Frame.Outcome.notice?_of_request {o : Outcome} {r : Json × String}
    (h : o.request? = some r) : o.notice? = none := by
  rw [Option.eq_none_iff_forall_ne_some]
  intro n hn
  rw [request?_of_notice hn] at h
  cases h

theorem Frame.Outcome.initializes_of_request {o : Outcome} (h : o.request? = none) :
    o.initializes = false := by
  rw [initializes, h]
  rfl

namespace Server

variable {σ π : Type} {f : FrontEnd σ π} {language source : String} {s s' : Server σ}

theorem Answer.awaiting {id frame : Json} {method : String} (h : Answer s id method frame s') :
    s'.phase = .awaitingInitialize ↔
      s.phase = .awaitingInitialize ∧ method ≠ "initialize" := by
  cases h with
  | notInitialized hp hm => simp [hp, hm]
  | initialized hp => simp
  | alreadyInitialized hp => simp [hp]
  | shutDown hp => simp [hp]
  | methodNotFound hp hi hs => simp [hp]
  | shuttingDown hp => simp [hp]

theorem Answer.shutdownRequested {id frame : Json} {method : String}
    (h : Answer s id method frame s') :
    s'.phase = .shutdownRequested ↔
      s.phase = .shutdownRequested ∨ (s.phase = .running ∧ method = "shutdown") := by
  cases h with
  | notInitialized hp hm => simp [hp]
  | initialized hp => simp [hp]
  | alreadyInitialized hp => simp [hp]
  | shutDown hp => simp [hp]
  | methodNotFound hp hi hs => simp [hp, hs]
  | shuttingDown hp => simp [hp]

section Reactions

variable {o : Outcome} {frames : List Json}

theorem Reaction.of_request (h : Reaction f s o frames s') {id : Json} {method : String}
    (hr : o.request? = some (id, method)) :
    frames = [(s.answer id method).1] ∧ s' = (s.answer id method).2 := by
  have hnotice : ∀ n, o.notice? ≠ some n := by
    intro n hn
    rw [Outcome.request?_of_notice hn] at hr
    cases hr
  cases h with
  | notJson reason => cases hr
  | answered hr' =>
      rw [hr] at hr'
      cases hr'
      exact ⟨rfl, rfl⟩
  | parsed hn hp hd hl => exact absurd hn (hnotice _)
  | tracked hn hp hd hl => exact absurd hn (hnotice _)
  | closed hn hp => exact absurd hn (hnotice _)
  | refused hn hp hd => exact absurd hn (hnotice _)
  | idle hj hr' hn =>
      rw [hr] at hr'
      cases hr'

theorem Reaction.phase_of_none (h : Reaction f s o frames s') (hr : o.request? = none) :
    s'.phase = s.phase := by
  cases h with
  | answered hr' =>
      rw [hr] at hr'
      cases hr'
  | _ => rfl

theorem Reaction.awaiting (h : Reaction f s o frames s') :
    s'.phase = .awaitingInitialize ↔
      s.phase = .awaitingInitialize ∧ o.initializes = false := by
  cases hr : o.request? with
  | none => rw [h.phase_of_none hr, Outcome.initializes_of_request hr]; simp
  | some r =>
      rw [(h.of_request hr).2, (answer_cases s r.1 r.2).awaiting, Outcome.initializes, hr]
      simp

theorem Reaction.shutdownRequested (h : Reaction f s o frames s') :
    s'.phase = .shutdownRequested ↔
      s.phase = .shutdownRequested ∨ (s.phase = .running ∧ o.shutsDown = true) := by
  cases hr : o.request? with
  | none => rw [h.phase_of_none hr, Outcome.shutsDown, hr]; simp
  | some r =>
      rw [(h.of_request hr).2, (answer_cases s r.1 r.2).shutdownRequested, Outcome.shutsDown,
        hr]
      simp

end Reactions

/-- A server waits for its initialization as long as none was requested. -/
theorem Reach.awaiting {log : List Outcome} (h : Reach f (.new language source) log s) :
    s.phase = .awaitingInitialize ↔ log.any Outcome.initializes = false := by
  refine h.reaction_induction (P := fun log s =>
    s.phase = .awaitingInitialize ↔ log.any Outcome.initializes = false) ?_ ?_
  · exact ⟨fun _ => rfl, fun _ => rfl⟩
  · intro log s o frames s' _ ih hr
    rw [hr.awaiting, ih, List.any_append, Bool.or_eq_false_iff]
    simp

/-- A shutdown was requested after a request to initialize. -/
def ShutDown (log : List Outcome) : Prop :=
  ∃ earlier o later, log = earlier ++ o :: later ∧ earlier.any Outcome.initializes = true ∧
    o.shutsDown = true

theorem shutDown_concat {log : List Outcome} {o : Outcome} :
    ShutDown (log ++ [o]) ↔
      ShutDown log ∨ (log.any Outcome.initializes = true ∧ o.shutsDown = true) := by
  constructor
  · rintro ⟨earlier, x, later, hlog, hi, hx⟩
    rcases List.eq_nil_or_concat later with rfl | ⟨later, y, rfl⟩
    · obtain ⟨rfl, rfl⟩ := List.concat_inj.mp (by simpa using hlog)
      exact .inr ⟨hi, hx⟩
    · have hlog' : log ++ [o] = (earlier ++ x :: later) ++ [y] := by simpa using hlog
      exact .inl ⟨earlier, x, later, (List.append_inj' hlog' rfl).1, hi, hx⟩
  · rintro (⟨earlier, x, later, rfl, hi, hx⟩ | ⟨hi, ho⟩)
    · exact ⟨earlier, x, later ++ [o], by simp, hi, hx⟩
    · exact ⟨log, o, [], rfl, hi, ho⟩

/-- A server is shutting down as soon as a shutdown was requested after an initialization. -/
theorem Reach.shutdownRequested {log : List Outcome} (h : Reach f (.new language source) log s) :
    s.phase = .shutdownRequested ↔ ShutDown log := by
  refine h.reaction_induction (P := fun log s => s.phase = .shutdownRequested ↔ ShutDown log) ?_ ?_
  · refine ⟨fun hp => (by cases hp), ?_⟩
    rintro ⟨earlier, o, later, hlog, -⟩
    simp at hlog
  · intro log s o frames s' hreach ih hr
    have hi : log.any Outcome.initializes = true ↔ s.phase ≠ .awaitingInitialize := by
      rw [ne_eq, hreach.awaiting, Bool.not_eq_false]
    rw [hr.shutdownRequested, shutDown_concat, ← ih, hi]
    cases s.phase with
    | awaitingInitialize => simp
    | running => simp
    | shutdownRequested => simp

end Server

end DiagServer
