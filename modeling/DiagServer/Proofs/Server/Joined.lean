import DiagServer.Proofs.Frame.Stream
import DiagServer.Proofs.Server.Run

/-!
# Streams that are joined

A server that comes to the end of a stream waits where it would also wait for the next frame of a
longer one. So serving a stream and then another is serving the two joined, as long as the first
ends with a whole frame, which it does if serving it ends with the client gone. A server that exits
reads no further than the exit, and nothing that stands behind it can matter.

Both are about the outcomes behind which reading goes on. If none of them ends the serving, it is
as if the rest were served by the server that they leave; and if one does, the rest is not heard.
-/

namespace DiagServer.Server

open DiagServer.Frame

variable {σ π : Type} {f : FrontEnd σ π} {s : Server σ} {os : List Outcome}

theorem ending_ne_disconnected {o : Outcome} (ho : o.goesOn = true) :
    (s.step f o).ending ≠ some (.exit .disconnected) := by
  have hleave : s.leave ≠ .disconnected := by
    rw [leave]
    split
    · exact ServerExit.noConfusion
    · exact ServerExit.noConfusion
  cases o with
  | frame v =>
      rw [step, receive]
      split
      · exact fun h => by cases h
      · split
        · exact fun h => hleave (Ending.exit.inj (Option.some.inj h))
        · exact fun h => by cases h
      · exact fun h => by cases h
      · exact fun h => by cases h
  | notJson reason => exact fun h => by cases h
  | broken e => cases ho
  | ended => cases ho

/-- Outcomes that do not end the serving are heard, and what comes behind them is served by the
server that they leave. -/
theorem heard_append_of_disconnected (hos : ∀ o ∈ os, o.goesOn = true)
    (h : s.endingFor f os = .exit .disconnected) (more : List Outcome) :
    s.heard f (os ++ more) = os ++ (s.after f os).heard f more ∧
      s.endingFor f (os ++ more) = (s.after f os).endingFor f more := by
  induction os generalizing s with
  | nil => exact ⟨rfl, rfl⟩
  | cons o rest ih =>
      rw [List.forall_mem_cons] at hos
      rw [endingFor] at h
      rw [List.cons_append, heard, endingFor]
      cases hending : (s.step f o).ending with
      | some ending =>
          rw [hending, Option.getD_some] at h
          exact absurd (hending.trans (congrArg some h)) (ending_ne_disconnected hos.1)
      | none =>
          rw [hending, Option.getD_none] at h
          obtain ⟨hheard, hendingFor⟩ := ih hos.2 h
          exact ⟨congrArg (o :: ·) hheard, hendingFor⟩

theorem heard_append_of_ne (h : s.endingFor f os ≠ .exit .disconnected) (more : List Outcome) :
    s.heard f (os ++ more) = s.heard f os ∧ s.endingFor f (os ++ more) = s.endingFor f os := by
  induction os generalizing s with
  | nil => exact absurd rfl h
  | cons o rest ih =>
      rw [endingFor] at h
      rw [List.cons_append, heard, heard, endingFor, endingFor]
      cases hending : (s.step f o).ending with
      | some ending => exact ⟨rfl, rfl⟩
      | none =>
          rw [hending, Option.getD_none] at h
          obtain ⟨hheard, hendingFor⟩ := ih h
          exact ⟨congrArg (o :: ·) hheard, hendingFor⟩

/-- The outcome behind which there is no next frame ends the serving, and only the end of the stream
does it without an error. -/
theorem endingFor_last {o : Outcome} (ho : o.goesOn = false) :
    (o = .ended ∧ s.endingFor f [o] = .exit .disconnected) ∨
      ∃ e, s.endingFor f [o] = .error (.reading e) := by
  cases o with
  | frame v => cases ho
  | notJson reason => cases ho
  | broken e => exact .inr ⟨e, rfl⟩
  | ended => exact .inl ⟨rfl, rfl⟩

theorem reads_of_disconnected {input : List UInt8}
    (h : s.endingFor f (outcomes input) = .exit .disconnected) :
    ∃ os, Reads input os [] ∧ s.endingFor f os = .exit .disconnected := by
  obtain ⟨os, left, last, hreads, -, hstops, houtcomes⟩ := exists_reads input
  rw [houtcomes] at h
  by_cases hos : s.endingFor f os = .exit .disconnected
  · -- none of the frames ends it, so the last outcome does, and without an error
    rw [(heard_append_of_disconnected hreads.goesOn hos [last]).2] at h
    rcases endingFor_last (f := f) (s := s.after f os) hstops with ⟨rfl, -⟩ | ⟨e, he⟩
    · exact ⟨os, reads_of_ended houtcomes, hos⟩
    · rw [he] at h
      cases h
  · rw [(heard_append_of_ne hos [last]).2] at h
    exact absurd h hos

theorem reads_of_exit {input : List UInt8} {e : ServerExit}
    (h : s.endingFor f (outcomes input) = .exit e) (he : e ≠ .disconnected) :
    ∃ os left, Reads input os left ∧ s.endingFor f os ≠ .exit .disconnected := by
  obtain ⟨os, left, last, hreads, -, hstops, houtcomes⟩ := exists_reads input
  refine ⟨os, left, hreads, fun hos => ?_⟩
  -- else the last outcome ends it, which is no exit that a client asked for
  rw [houtcomes, (heard_append_of_disconnected hreads.goesOn hos [last]).2] at h
  rcases endingFor_last (f := f) (s := s.after f os) hstops with ⟨-, hlast⟩ | ⟨error, herror⟩
  · rw [hlast] at h
    exact he (Ending.exit.inj h).symm
  · rw [herror] at h
    cases h

/-- Serving frames to their end, none of which ends the serving, is reading them. -/
theorem serve_of_reads {input : List UInt8} (hreads : Reads input os [])
    (hos : s.endingFor f os = .exit .disconnected) :
    (s.serve f {} input).server = s.after f os ∧
      (s.serve f {} input).sink.chunks = (s.framesFor f os).map Frame.encode := by
  have hheard : s.heard f (outcomes input) = os ++ [.ended] := by
    rw [hreads.outcomes_eq, outcomes_nil]
    exact (heard_append_of_disconnected hreads.goesOn hos [.ended]).1
  have hframes : (s.after f os).framesFor f [.ended] = [] := rfl
  obtain ⟨hserver, hchunks⟩ := serve_unlimited (f := f) s input
  rw [hheard, after_append] at hserver
  rw [hheard, framesFor_append, hframes, List.append_nil] at hchunks
  exact ⟨hserver, hchunks⟩

/-- Serving two streams that are joined, for every server and with a writer that takes everything.
If serving the first ends with the client gone, the second is served as by the server that the first
leaves: its frames come behind those of the first, and its ending and its server are those in the
end. If serving the first ends with an exit, nothing that is joined to it makes a difference. -/
theorem serve_append (f : FrontEnd σ π) (s : Server σ) (input more : List UInt8) :
    let first := s.serve f {} input
    let second := first.server.serve f {} more
    let joined := s.serve f {} (input ++ more)
    (first.ending = .exit .disconnected →
      joined.sink.chunks = first.sink.chunks ++ second.sink.chunks ∧
        joined.ending = second.ending ∧ joined.server = second.server) ∧
    ∀ e, first.ending = .exit e → e ≠ .disconnected → joined = first := by
  intro first second joined
  have hfirst : first = _ := serve_free s input
  have hjoined : joined = _ := serve_free s (input ++ more)
  refine ⟨fun hending => ?_, fun e hending he => ?_⟩
  · have hfree : s.endingFor f (outcomes input) = .exit .disconnected := by rwa [hfirst] at hending
    obtain ⟨os, hreads, hos⟩ := reads_of_disconnected hfree
    obtain ⟨hserver, hchunks⟩ := serve_of_reads hreads hos
    have hsecond : second = _ := serve_free first.server more
    have houtcomes : outcomes (input ++ more) = os ++ outcomes more :=
      (hreads.append more).outcomes_eq
    obtain ⟨hheard, hends⟩ := heard_append_of_disconnected hreads.goesOn hos (outcomes more)
    rw [houtcomes, hheard, hends, after_append, framesFor_append] at hjoined
    rw [show first.server = s.after f os from hserver] at hsecond
    rw [show first.sink.chunks = _ from hchunks, hjoined, hsecond]
    refine ⟨?_, rfl, rfl⟩
    rw [Sink.chunks, Sink.chunks, List.reverse_reverse, List.reverse_reverse, List.map_append]
  · have hfree : s.endingFor f (outcomes input) = .exit e := by rwa [hfirst] at hending
    obtain ⟨os, left, hreads, hos⟩ := reads_of_exit hfree he
    rw [hreads.outcomes_eq, (heard_append_of_ne hos _).1, (heard_append_of_ne hos _).2] at hfirst
    rw [(hreads.append more).outcomes_eq, (heard_append_of_ne hos _).1,
      (heard_append_of_ne hos _).2] at hjoined
    exact hjoined.trans hfirst.symm

/-- A faulty body, an exit behind it, and bytes behind the exit that are no frame. -/
theorem serve_append_exit :
    let f := FrontEnd.memoryless fun _ _ => []
    let s : Server Unit := .new "c" "check"
    let faulty := Text.Utf8.encode "Content-Length: 1\n\nx"
    let exit := Text.Utf8.encode "Content-Length: 17\n\n\x7b\"method\":\"exit\"\x7d"
    let first := s.serve f {} faulty
    let second := first.server.serve f {} exit
    let joined := s.serve f {} (faulty ++ exit)
    (first.ending = .exit .disconnected ∧ joined.ending = .exit .withoutShutdown) ∧
      joined.sink.chunks = first.sink.chunks ++ second.sink.chunks ∧
      s.serve f {} (faulty ++ exit ++ [0xFF]) = joined := by
  intro f s faulty exit first second joined
  have hfirst : first.ending = .exit .disconnected := by decide +kernel
  have hjoined : joined.ending = .exit .withoutShutdown := by decide +kernel
  obtain ⟨hchunks, -, -⟩ := (serve_append f s faulty exit).1 hfirst
  exact ⟨⟨hfirst, hjoined⟩, hchunks,
    (serve_append f s (faulty ++ exit) [0xFF]).2 _ hjoined (by decide)⟩

end DiagServer.Server
