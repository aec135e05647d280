import DiagServer.Proofs.Frame.Sink
import DiagServer.Proofs.Server.Reaction

/-!
# Runs of a server

A server may serve many streams, one after the other, and a writer may fail in the middle of a
turn. `Reach` holds the servers that come up on the way, each with all that was read until then;
`Reach.reaction_induction` is the induction that the invariants of runs go by, one rule of
`Reaction` at a time. What a server reads of a stream depends on its sink too (`readWith`).

Where no writer fails, a run is determined by what is read. `heard` is what a server reads of a
stream before it stops, `after` the server that this leaves, `framesFor` the frames that are
written for it and `endingFor` the way it ends; `serve_unlimited` says that serving does exactly
this, and `serveAll_eq` the same of many streams.

What a server writes does not depend on whether anybody takes it: a writer that fails ends the
serving, and until then every turn is the one that it would have been anyway. So serving a stream is
one delivery. `writesFor` lists all that the run with a perfect writer would write, and `deliver`
takes from this list up to the first frame that is not taken (`serveOutcomes_eq`).
-/

namespace DiagServer.Server

open DiagServer.Protocol DiagServer.Frame

variable {σ π : Type} {f : FrontEnd σ π} {s₀ s : Server σ} {log : List Outcome}

/-! ## What comes up while serving -/

/-- The servers that serving leads to from `s₀`, each with the outcomes read until then. A turn
that writes all its frames leaves one server; a turn cut off by its writer leaves the server that
wrote the frame. A stream may end after any turn, and the next one goes on from there. -/
inductive Reach (f : FrontEnd σ π) (s₀ : Server σ) : List Outcome → Server σ → Prop
  | start : Reach f s₀ [] s₀
  | turn {log : List Outcome} {s : Server σ} (o : Outcome) (h : Reach f s₀ log s) :
      Reach f s₀ (log ++ [o]) (s.step f o).server
  | cut {log : List Outcome} {s : Server σ} {o : Outcome} {w : Write σ} (h : Reach f s₀ log s)
      (hw : w ∈ (s.step f o).writes) : Reach f s₀ (log ++ [o]) w.server

theorem Reach.sound {language source : String} (h : Reach f (.new language source) log s) :
    Sound language source s := by
  induction h with
  | start => exact .new language source
  | turn o h ih => exact ih.reaction (reaction_step ih o).1
  | cut h hw ih =>
      rw [(reaction_step ih _).2 _ hw]
      exact ih.reaction (reaction_step ih _).1

/-- What holds of a new server and is kept by every rule holds whenever serving has led there. -/
theorem Reach.reaction_induction {language source : String}
    {P : List Outcome → Server σ → Prop} (start : P [] (.new language source))
    (turn : ∀ log s o frames s', Reach f (.new language source) log s → P log s →
      Reaction f s o frames s' → P (log ++ [o]) s')
    (h : Reach f (.new language source) log s) : P log s := by
  induction h with
  | start => exact start
  | turn o h ih => exact turn _ _ o _ _ h ih (reaction_step h.sound o).1
  | cut h hw ih =>
      -- the server that wrote the frame is the one that the whole turn leaves
      rw [(reaction_step h.sound _).2 _ hw]
      exact turn _ _ _ _ _ h ih (reaction_step h.sound _).1

theorem mem_of_deliver {sink sink' : Sink} {writes : List (Write σ)} {w : Write σ}
    (h : deliver sink writes = (sink', some w)) : w ∈ writes := by
  induction writes generalizing sink with
  | nil => cases h
  | cons v rest ih =>
      rw [deliver] at h
      split at h
      · exact List.mem_cons_of_mem _ (ih h)
      · simp only [Prod.mk.injEq, Option.some.injEq] at h
        rw [h.2]
        exact List.mem_cons_self

/-- What a server reads of some outcomes while it writes to a sink: it stops at the first that ends
its serving, and at the first with a frame that is not taken. -/
def readWith (f : FrontEnd σ π) (s : Server σ) (sink : Sink) : List Outcome → List Outcome
  | [] => []
  | o :: rest =>
      o ::
        match deliver sink (s.step f o).writes with
        | (_, some _) => []
        | (sink, none) =>
            if (s.step f o).ending.isSome then [] else readWith f (s.step f o).server sink rest

theorem isPrefix_readWith (s : Server σ) (sink : Sink) (os : List Outcome) :
    s.readWith f sink os <+: os := by
  induction os generalizing s sink with
  | nil => exact List.prefix_rfl
  | cons o rest ih =>
      rw [readWith, List.cons_prefix_cons]
      refine ⟨rfl, ?_⟩
      split
      · exact List.nil_prefix
      · split
        · exact List.nil_prefix
        · exact ih _ _

/-- Whatever writer a server gets, serving a stream leads to a server that `Reach` holds. -/
theorem Reach.serveOutcomes (h : Reach f s₀ log s) (sink : Sink) (os : List Outcome) :
    Reach f s₀ (log ++ s.readWith f sink os) (s.serveOutcomes f sink os).server := by
  induction os generalizing log s sink with
  | nil => rwa [readWith, List.append_nil]
  | cons o rest ih =>
      rw [readWith, Server.serveOutcomes]
      cases hdeliver : deliver sink (s.step f o).writes with
      | mk sink' cut =>
          cases cut with
          | some w => exact .cut h (mem_of_deliver hdeliver)
          | none =>
              cases hending : (s.step f o).ending with
              | some ending => exact .turn o h
              | none =>
                  rw [List.append_cons]
                  exact ih (.turn o h) sink'

theorem Reach.serve (h : Reach f s₀ log s) (sink : Sink) (input : List UInt8) :
    Reach f s₀ (log ++ s.readWith f sink (outcomes input)) (s.serve f sink input).server :=
  h.serveOutcomes sink (outcomes input)

/-! ## What a run writes -/

/-- The frames that are written for one outcome. -/
def framesOf (f : FrontEnd σ π) (s : Server σ) (o : Outcome) : List Json :=
  (s.step f o).writes.map (·.frame)

/-- The outcomes that a server reads: those up to the first that ends its serving. -/
def heard (f : FrontEnd σ π) (s : Server σ) : List Outcome → List Outcome
  | [] => []
  | o :: rest =>
      o :: if (s.step f o).ending.isSome then [] else heard f (s.step f o).server rest

/-- The server after it read some outcomes. -/
def after (f : FrontEnd σ π) (s : Server σ) (os : List Outcome) : Server σ :=
  os.foldl (fun s o => (s.step f o).server) s

/-- The frames that are written for some outcomes, one outcome after the other. -/
def framesFor (f : FrontEnd σ π) (s : Server σ) : List Outcome → List Json
  | [] => []
  | o :: rest => s.framesOf f o ++ framesFor f (s.step f o).server rest

theorem after_append (s : Server σ) (as bs : List Outcome) :
    s.after f (as ++ bs) = (s.after f as).after f bs :=
  List.foldl_append

theorem framesFor_append (s : Server σ) (as bs : List Outcome) :
    s.framesFor f (as ++ bs) = s.framesFor f as ++ (s.after f as).framesFor f bs := by
  induction as generalizing s with
  | nil => rfl
  | cons o rest ih => rw [List.cons_append, framesFor, ih, framesFor, List.append_assoc]; rfl

theorem Reach.after (h : Reach f s₀ log s) (os : List Outcome) :
    Reach f s₀ (log ++ os) (s.after f os) := by
  induction os generalizing log s with
  | nil => rwa [List.append_nil]
  | cons o rest ih =>
      rw [List.append_cons]
      exact ih (.turn o h)

/-- All that is written for some outcomes, one outcome after the other. -/
def writesFor (f : FrontEnd σ π) (s : Server σ) : List Outcome → List (Write σ)
  | [] => []
  | o :: rest => (s.step f o).writes ++ writesFor f (s.step f o).server rest

/-- How serving some outcomes ends if every frame is taken. -/
def endingFor (f : FrontEnd σ π) (s : Server σ) : List Outcome → Ending
  | [] => .exit .disconnected
  | o :: rest => (s.step f o).ending.getD (endingFor f (s.step f o).server rest)

theorem map_frame_writesFor (s : Server σ) (os : List Outcome) :
    (s.writesFor f os).map (·.frame) = s.framesFor f os := by
  induction os generalizing s with
  | nil => rfl
  | cons o rest ih => rw [writesFor, List.map_append, ih, framesFor, framesOf]

theorem writesFor_append (s : Server σ) (as bs : List Outcome) :
    s.writesFor f (as ++ bs) = s.writesFor f as ++ (s.after f as).writesFor f bs := by
  induction as generalizing s with
  | nil => rfl
  | cons o rest ih => rw [List.cons_append, writesFor, ih, writesFor, List.append_assoc]; rfl

theorem deliver_append (sink : Sink) (as bs : List (Write σ)) :
    deliver sink (as ++ bs) =
      match deliver sink as with
      | (sink, some w) => (sink, some w)
      | (sink, none) => deliver sink bs := by
  induction as generalizing sink with
  | nil => rfl
  | cons w rest ih =>
      rw [List.cons_append, deliver, deliver]
      cases hput : sink.put (Frame.encode w.frame) with
      | mk taken sink' =>
          cases taken with
          | true => exact ih sink'
          | false => rfl

/-- Serving writes, in one go, what it would write to a writer that takes everything; the first
frame that is not taken ends it, with the server that wrote it. -/
theorem serveOutcomes_eq (s : Server σ) (sink : Sink) (os : List Outcome) :
    s.serveOutcomes f sink os =
      match deliver sink (s.writesFor f (s.heard f os)) with
      | (sink, some w) => ⟨w.server, sink, .error (.writing w.purpose)⟩
      | (sink, none) => ⟨s.after f (s.heard f os), sink, s.endingFor f os⟩ := by
  induction os generalizing s sink with
  | nil => rfl
  | cons o rest ih =>
      rw [serveOutcomes, heard, writesFor, deliver_append, endingFor]
      cases hdeliver : deliver sink (s.step f o).writes with
      | mk sink' cut =>
          cases cut with
          | some w => rfl
          | none =>
              cases hending : (s.step f o).ending with
              | some ending => rfl
              | none => exact ih (s.step f o).server sink'

theorem putAll_of_deliver {sink sink' : Sink} {ws : List (Write σ)} {cut : Option (Write σ)}
    (h : deliver sink ws = (sink', cut)) :
    sink.putAll (ws.map (·.frame)) = (cut.isNone, sink') := by
  induction ws generalizing sink with
  | nil =>
      cases h
      rfl
  | cons w rest ih =>
      rw [deliver] at h
      rw [List.map_cons, Sink.putAll]
      cases hput : sink.put (Frame.encode w.frame) with
      | mk taken sink₁ =>
          rw [hput] at h
          cases taken with
          | true => exact ih h
          | false =>
              cases h
              rfl

/-! ## Runs in which every frame is taken -/

/-- A writer with room for everything takes everything. -/
theorem deliver_fits (room : Option Nat) {ws : List (Write σ)}
    (h : ∀ n ∈ room, (wire (ws.map (·.frame))).length ≤ n) :
    deliver (.withRoom room) ws =
      (⟨room.map (· - (wire (ws.map (·.frame))).length),
        ((ws.map (·.frame)).map Frame.encode).reverse, []⟩, none) := by
  have hput := Sink.putAll_fits room h []
  rw [List.append_nil] at hput
  cases hdeliver : deliver (.withRoom room) ws with
  | mk sink cut =>
      obtain ⟨hcut, rfl⟩ := Prod.mk.inj ((putAll_of_deliver hdeliver).symm.trans hput)
      rw [Option.isNone_iff_eq_none.mp hcut]

theorem serve_fits (room : Option Nat) (s : Server σ) (input : List UInt8)
    (h : ∀ n ∈ room, (wire (s.framesFor f (s.heard f (outcomes input)))).length ≤ n) :
    s.serve f (.withRoom room) input =
      ⟨s.after f (s.heard f (outcomes input)),
        ⟨room.map (· - (wire (s.framesFor f (s.heard f (outcomes input)))).length),
          ((s.framesFor f (s.heard f (outcomes input))).map Frame.encode).reverse, []⟩,
        s.endingFor f (outcomes input)⟩ := by
  rw [← map_frame_writesFor] at h ⊢
  rw [serve, serveOutcomes_eq, deliver_fits room h]

/-- A writer that takes everything gets the frames of what is heard, and the server ends as the
outcomes tell. -/
theorem serve_free (s : Server σ) (input : List UInt8) :
    s.serve f {} input =
      ⟨s.after f (s.heard f (outcomes input)),
        ⟨none, ((s.framesFor f (s.heard f (outcomes input))).map Frame.encode).reverse, []⟩,
        s.endingFor f (outcomes input)⟩ :=
  serve_fits none s input (fun n hn => by cases hn)

theorem serve_unlimited (s : Server σ) (input : List UInt8) :
    (s.serve f {} input).server = s.after f (s.heard f (outcomes input)) ∧
      (s.serve f {} input).sink.chunks =
        (s.framesFor f (s.heard f (outcomes input))).map Frame.encode := by
  rw [serve_free, Sink.chunks, List.reverse_reverse]
  exact ⟨rfl, rfl⟩

/-- Serve streams one after the other with writers that do not fail: the server in the end, and the
frames that were flushed. -/
def serveAll (f : FrontEnd σ π) (s : Server σ) : List (List UInt8) → Server σ × List (List UInt8)
  | [] => (s, [])
  | input :: inputs =>
      let served := s.serve f {} input
      let rest := serveAll f served.server inputs
      (rest.1, served.sink.chunks ++ rest.2)

/-- What a server reads of streams that it serves one after the other. -/
def heardAll (f : FrontEnd σ π) (s : Server σ) : List (List UInt8) → List Outcome
  | [] => []
  | input :: inputs =>
      let read := s.heard f (outcomes input)
      read ++ heardAll f (s.after f read) inputs

theorem serveAll_eq (s : Server σ) (inputs : List (List UInt8)) :
    s.serveAll f inputs =
      (s.after f (s.heardAll f inputs),
        (s.framesFor f (s.heardAll f inputs)).map Frame.encode) := by
  induction inputs generalizing s with
  | nil => rfl
  | cons input inputs ih =>
      obtain ⟨hserver, hchunks⟩ := serve_unlimited (f := f) s input
      rw [serveAll]
      simp only [hserver, hchunks, ih, heardAll, after_append, framesFor_append, List.map_append]

end DiagServer.Server
