import DiagServer.Proofs.Server.Run

/-!
# Writers that fail

A writer that takes `n` bytes takes the first `n` bytes of what a perfect writer takes, and nothing
else about the run changes. Since serving is one delivery of a list of frames that is the same for
both writers, this is about a list of frames and a number: either all of them together have at most
`n` bytes, or one of them holds byte `n + 1`, and then those before it are taken whole and of this
one the part that still fits. The turn that this frame belongs to gives the server.
-/

namespace DiagServer.Server

open DiagServer.Protocol DiagServer.Frame

variable {σ π : Type} {f : FrontEnd σ π}

/-! ## A write and its turn -/

/-- Every write belongs to a turn: the frames before it are those of earlier outcomes and those
that the same turn wrote first. -/
theorem exists_turn {s : Server σ} {os : List Outcome} {ws ws' : List (Write σ)} {w : Write σ}
    (h : s.writesFor f os = ws ++ w :: ws') :
    ∃ before o rest first last, os = before ++ o :: rest ∧
      ((s.after f before).step f o).writes = first ++ w :: last ∧
      ws = s.writesFor f before ++ first := by
  induction os generalizing s ws with
  | nil => exact absurd h.symm (by simp [writesFor])
  | cons o rest ih =>
      rw [writesFor] at h
      rcases List.append_eq_append_iff.mp h with ⟨as, hws, hrest⟩ | ⟨bs, hwrites, hbs⟩
      · -- The write stands in a later turn, with some of the writes before it.
        obtain ⟨before, o', rest', first, last, hos, hstep, has⟩ := ih hrest
        refine ⟨o :: before, o', rest', first, last, by rw [hos]; rfl, hstep, ?_⟩
        rw [hws, has, writesFor, List.append_assoc]
      · cases bs with
        | nil =>
            -- Here it is the first of the later turns that writes it.
            obtain ⟨before, o', rest', first, last, hos, hstep, has⟩ :=
              ih (show _ = [] ++ w :: ws' from hbs.symm)
            refine ⟨o :: before, o', rest', first, last, by rw [hos]; rfl, hstep, ?_⟩
            rw [writesFor, List.append_assoc, ← has, List.append_nil, hwrites, List.append_nil]
        | cons w' last =>
            obtain ⟨rfl, -⟩ := List.cons.inj hbs
            exact ⟨[], o, rest, ws, last, rfl, hwrites, rfl⟩

/-- The turn in which a frame is written that holds byte `n + 1`. -/
theorem turn_of_cut {s : Server σ} {os : List Outcome} {whole later : List (Write σ)} {w : Write σ}
    {n : Nat} (hsplit : s.writesFor f os = whole ++ w :: later)
    (hle : (wire (whole.map (·.frame))).length ≤ n)
    (hlt : n < (wire (whole.map (·.frame) ++ [w.frame])).length) :
    ∃ before o rest, os = before ++ o :: rest ∧ (wire (s.framesFor f before)).length ≤ n ∧
      n < (wire (s.framesFor f (before ++ [o]))).length ∧
      w ∈ ((s.after f before).step f o).writes := by
  obtain ⟨before, o, rest, first, last, hos, hstep, rfl⟩ := exists_turn hsplit
  refine ⟨before, o, rest, hos, ?_, ?_, by rw [hstep]; simp⟩
  · rw [List.map_append, wire_append, List.length_append, map_frame_writesFor] at hle
    omega
  · have hturn : s.framesFor f (before ++ [o]) =
        (s.writesFor f before ++ first).map (·.frame) ++ [w.frame] ++ last.map (·.frame) := by
      rw [← map_frame_writesFor, writesFor_append, writesFor, writesFor, hstep]
      simp
    rw [hturn, wire_append, List.length_append]
    omega

/-- A writer with less room takes the frames before the one that holds the next byte, and of this
one what fits. -/
theorem deliver_cut {n : Nat} {whole later : List (Write σ)} {w : Write σ}
    (hle : (wire (whole.map (·.frame))).length ≤ n)
    (hlt : n < (wire (whole.map (·.frame) ++ [w.frame])).length) :
    deliver (.withRoom (some n)) (whole ++ w :: later) =
      (⟨some 0, ((whole.map (·.frame)).map Frame.encode).reverse,
        (Frame.encode w.frame).take (n - (wire (whole.map (·.frame))).length)⟩, some w) := by
  have hrest : n - (wire (whole.map (·.frame))).length < (Frame.encode w.frame).length := by
    rw [length_wire_concat] at hlt
    omega
  rw [deliver_append, deliver_fits (some n) (by rintro m ⟨⟩; exact hle), Option.map_some]
  simp only [deliver, Sink.put_cut hrest]

/-! ## Servers with nothing due -/

theorem settled_publishChanges_nil (s : Server σ) :
    (s.publishChanges []).server.session.store.changed = [] ∧
      ∀ w ∈ (s.publishChanges []).writes, w.server = (s.publishChanges []).server := by
  rw [publishChanges]
  simp [Session.drain, Store.drain]

/-- If no change is due before a turn, none is after it, and every frame is written by the server
that the turn leaves. -/
theorem settled_step {s : Server σ} (h : s.session.store.changed = []) (o : Outcome) :
    (s.step f o).server.session.store.changed = [] ∧
      ∀ w ∈ (s.step f o).writes, w.server = (s.step f o).server := by
  cases o with
  | notJson reason => exact ⟨h, by simp [step]⟩
  | broken e => exact ⟨h, by simp [step]⟩
  | ended => exact ⟨h, by simp [step]⟩
  | frame v =>
      rw [step, receive]
      split
      · next id method _ _ =>
          have hanswer : (s.answer id method).2.session.store.changed = [] := by
            obtain ⟨phase, hs⟩ := answer_server s id method
            rw [hs]
            exact h
          simp only [publishChanges_settled hanswer]
          exact ⟨hanswer, by simp⟩
      · split
        · exact ⟨h, by simp⟩
        · exact settled_publishChanges_nil _
      · exact settled_publishChanges_nil s
      · exact settled_publishChanges_nil s

theorem settled_after {s : Server σ} (h : s.session.store.changed = []) (os : List Outcome) :
    (s.after f os).session.store.changed = [] := by
  induction os generalizing s with
  | nil => exact h
  | cons o rest ih => exact ih (settled_step h o).1

/-! ## Serving with a limited writer -/

theorem serve_cut {s : Server σ} {input : List UInt8} {n : Nat} {whole later : List (Write σ)}
    {w : Write σ} (hsplit : s.writesFor f (s.heard f (outcomes input)) = whole ++ w :: later)
    (hle : (wire (whole.map (·.frame))).length ≤ n)
    (hlt : n < (wire (whole.map (·.frame) ++ [w.frame])).length) :
    s.serve f (.withRoom (some n)) input =
      ⟨w.server, ⟨some 0, ((whole.map (·.frame)).map Frame.encode).reverse,
        (Frame.encode w.frame).take (n - (wire (whole.map (·.frame))).length)⟩,
        .error (.writing w.purpose)⟩ := by
  rw [serve, serveOutcomes_eq, hsplit, deliver_cut hle hlt]

/-- A writer that takes `n` bytes and then fails changes nothing if the output has no more. If it
has more, the writer gets the first `n` bytes of it: flushed are the frames that fit whole, up to
the one that holds byte `n + 1`. Serving ends with the failure to write this frame, and with the
server that wrote it. This is the server that the turn leaves, for every server that serves with no
change due, as those do that `Reach` holds. -/
theorem serve_withRoom (f : FrontEnd σ π) (s : Server σ) (input : List UInt8) (n : Nat) :
    let read := s.heard f (outcomes input)
    let free := s.serve f (.withRoom none) input
    let cut := s.serve f (.withRoom (some n)) input
    let output := free.sink.chunks.flatten
    (output.length ≤ n → cut.sink.chunks = free.sink.chunks ∧ cut.sink.pending = [] ∧
      cut.ending = free.ending ∧ cut.server = free.server) ∧
    (n < output.length →
      cut.sink.chunks.flatten ++ cut.sink.pending = output.take n ∧
      (∃ frame later, free.sink.chunks = cut.sink.chunks ++ frame :: later ∧
        cut.sink.chunks.flatten.length ≤ n ∧
        n < (cut.sink.chunks ++ [frame]).flatten.length) ∧
      ∃ before o rest w, read = before ++ o :: rest ∧
        (wire (s.framesFor f before)).length ≤ n ∧
        n < (wire (s.framesFor f (before ++ [o]))).length ∧
        w ∈ ((s.after f before).step f o).writes ∧
        cut.ending = .error (.writing w.purpose) ∧ cut.server = w.server ∧
        (s.session.store.changed = [] → cut.server = s.after f (before ++ [o]))) := by
  intro read free cut output
  have hfree : free = _ := serve_free s input
  have hchunks : free.sink.chunks = (s.framesFor f read).map Frame.encode := by
    rw [hfree, Sink.chunks, List.reverse_reverse]
  have houtput : output = wire (s.framesFor f read) := congrArg List.flatten hchunks
  refine ⟨fun hle => ?_, fun hlt => ?_⟩
  · rw [houtput] at hle
    have hcut : cut = _ := serve_fits (some n) s input (by rintro m ⟨⟩; exact hle)
    rw [hcut, hfree]
    exact ⟨rfl, rfl, rfl, rfl⟩
  · rw [houtput, ← map_frame_writesFor] at hlt
    obtain ⟨frames, frame, frames', hframes, hwhole, hpast⟩ := exists_cut hlt
    obtain ⟨whole, ws, hsplit, rfl, hws⟩ := List.map_eq_append_iff.mp hframes
    obtain ⟨w, later, rfl, rfl, rfl⟩ := List.map_eq_cons_iff.mp hws
    have hcut : cut = _ := serve_cut hsplit hwhole hpast
    have hflushed : cut.sink.chunks = (whole.map (·.frame)).map Frame.encode := by
      rw [hcut, Sink.chunks, List.reverse_reverse]
    rw [← map_frame_writesFor, hframes] at hchunks houtput
    obtain ⟨before, o, rest, hread, hbefore, hturn, hmem⟩ := turn_of_cut hsplit hwhole hpast
    refine ⟨?_, ⟨Frame.encode w.frame, (later.map (·.frame)).map Frame.encode, ?_, ?_, ?_⟩,
      before, o, rest, w, hread, hbefore, hturn, hmem, by rw [hcut], by rw [hcut], fun hs => ?_⟩
    · rw [houtput, take_wire hwhole hpast, hflushed, hcut]
      rfl
    · rw [hchunks, hflushed, List.map_append, List.map_cons]
    · rwa [hflushed]
    · rw [hflushed, ← List.map_singleton, ← List.map_append]
      exact hpast
    · rw [hcut, (settled_step (settled_after hs before) o).2 w hmem, after_append]
      rfl

end DiagServer.Server
