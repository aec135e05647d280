import DiagServer.Proofs.Session.LastParse
import Mathlib.Data.List.Chain

/-!
# What a session asks of its front-end

A front-end is a value to a session that only keeps what it gives back, so how often it is asked for
something cannot be seen from what the session becomes. But a session runs over any front-end of
actions, and where its actions are written down the calls come out, each in its place: one system
before the first parse, and a program and a parse for every document in the session's language.
-/

namespace DiagServer

variable {σ π : Type} {f : FrontEnd σ π}

namespace FrontEnd

/-- A call of a front-end's operation. -/
inductive Call (σ : Type) where
  | newSystem
  | newProgram
  | parse (p : Parse σ)

/-- The front-end whose operations are written down in a log, one behind the other. -/
def recorded (f : FrontEnd σ π) : Effectful (StateM (List (Call σ))) σ π where
  newSystem := fun log => pure (f.newSystem, log ++ [.newSystem])
  newProgram := fun log => pure (f.newProgram, log ++ [.newProgram])
  parse := fun context file input log =>
    let left := f.parse context file input
    pure (left, log ++ [.parse ⟨context.system, file, input, left.1.system, left.2⟩])
  name := f.name

/-- The front-end that keeps, beside the system, all parses that it was called for. -/
def traced (f : FrontEnd σ π) : FrontEnd (σ × List (Parse σ)) π where
  newSystem := (f.newSystem, [])
  newProgram := f.newProgram
  parse := fun context file input =>
    let left := f.parse ⟨context.system.1, context.program⟩ file input
    let p : Parse σ := ⟨context.system.1, file, input, left.1.system, left.2⟩
    (⟨(left.1.system, context.system.2 ++ [p]), left.1.program⟩, left.2)
  name := f.name

/-- One parse for each document, the first from a new system and each other from the system that
the one before has left. -/
structure Threads (f : FrontEnd σ π) (ds : List TextDocument) (parses : List (Parse σ)) :
    Prop where
  each : List.Forall₂
    (fun d p => p.file = f.name d.id ∧ p.input = Text.Utf8.encode d.text) ds parses
  first : ∀ p, parses.head? = some p → p.start = f.newSystem
  chain : parses.IsChain fun p q => q.start = p.finish
  left : ∀ p ∈ parses, p.finish = (f.parse ⟨p.start, f.newProgram⟩ p.file p.input).1.system

theorem threads_parsesOf (ds : List TextDocument) :
    f.Threads ds ((f.parsesOf f.newSystem ds).map (·.2)) where
  each := by
    generalize f.newSystem = start
    induction ds generalizing start with
    | nil => exact .nil
    | cons d rest ih => exact .cons ⟨rfl, rfl⟩ (ih _)
  first := by
    intro p hp
    cases ds with
    | nil => cases hp
    | cons d rest =>
        cases hp
        rfl
  chain := by
    generalize f.newSystem = start
    induction ds generalizing start with
    | nil => exact .nil
    | cons d rest ih =>
        cases rest with
        | nil => exact .singleton _
        | cons d' rest => exact .cons_cons rfl (ih _)
  left := by
    generalize f.newSystem = start
    induction ds generalizing start with
    | nil => simp [parsesOf]
    | cons d rest ih =>
        intro p hp
        rcases List.mem_cons.mp hp with rfl | hp
        · rfl
        · exact ih _ p hp

end FrontEnd

open FrontEnd

namespace Session

/-- An action without a document in the session's language calls nothing. -/
theorem performIn_of_none {m : Type → Type} [Monad m] {g : Effectful m σ π} {s : Session σ}
    {a : Action} (h : a.accepted? s.language = none) : s.performIn g a = pure (s.perform f a) := by
  rw [Action.accepted?_eq_none] at h
  have hforeign : ∀ d, a.document? = some d → s.refreshIn g d = pure (s.refresh f d) := by
    intro d hd
    rw [refreshIn, if_pos (h d hd), refresh_of_ne (h d hd)]
  cases a with
  | refresh d => exact hforeign d rfl
  | event e =>
      show s.handleIn g e = pure (s.handle f e)
      rw [handleIn]
      cases he : e.document? with
      | some d => rw [handle_of_some he, ← hforeign d he]
      | none => rw [handle_of_none he]
  | drain => rfl

/-! ## Where the operations are written down -/

/-- The calls for some parses, after that for the system if there is none. -/
def callsFor (system : Option σ) (parses : List (Parse σ)) : List (Call σ) :=
  (if system.isNone ∧ parses ≠ [] then [.newSystem] else []) ++
    parses.flatMap fun p => [.newProgram, .parse p]

theorem callsFor_nil (system : Option σ) : callsFor system [] = [] := by
  simp [callsFor]

theorem callsFor_cons (system : Option σ) (p : Parse σ) (rest : List (Parse σ)) :
    callsFor system (p :: rest) =
      callsFor system [p] ++ callsFor (some p.finish) rest := by
  simp [callsFor]

/-- A recorded parse of a document is two calls. -/
theorem run_recorded (system : σ) (d : TextDocument) (log : List (Call σ)) :
    (f.recorded.run system (f.recorded.name d.id) (Text.Utf8.encode d.text)
        (Text.Utf8.encode d.text).length).run log =
      (f.parse ⟨system, f.newProgram⟩ (f.name d.id) (Text.Utf8.encode d.text),
        log ++ [.newProgram, .parse (f.parseOf system d)]) := by
  rw [Effectful.run, clip_length]
  show (_, (log ++ [_]) ++ [_]) = _
  rw [List.append_assoc]
  rfl

theorem refreshIn_recorded {s : Session σ} {d : TextDocument} (h : d.language = s.language)
    (log : List (Call σ)) :
    (s.refreshIn f.recorded d).run log =
      (s.keep d (f.parseOf (s.systemFor f) d),
        log ++ callsFor s.system [f.parseOf (s.systemFor f) d]) := by
  rw [keep, ← Report.toDiagnostic_eq_stored, ← Batch.toList_ofReports, refreshIn,
    if_neg (fun hn => hn h)]
  -- a session without a system makes one call more than a session with one
  obtain ⟨language, _ | system, store⟩ := s
  · have hsystem : f.recorded.newSystem.run log = (f.newSystem, log ++ [.newSystem]) := rfl
    simp only [StateT.run_bind, hsystem, run_recorded]
    exact congrArg (Prod.mk _) (List.append_assoc log [.newSystem] _)
  · simp only [StateT.run_bind, pure_bind, run_recorded]
    rfl

/-- A recorded session becomes what it would become unrecorded, and the log grows by the calls for
its parses. -/
theorem runIn_recorded (s : Session σ) (actions : List Action) (log : List (Call σ)) :
    (s.runIn f.recorded actions).run log =
      (s.run f actions,
        log ++ callsFor s.system
          ((f.parsesOf (s.systemFor f) (accepted s.language actions)).map (·.2))) := by
  induction actions generalizing s log with
  | nil =>
      rw [accepted, List.filterMap_nil, parsesOf, List.map_nil, callsFor_nil, List.append_nil]
      rfl
  | cons a rest ih =>
      rw [runIn, List.foldlM_cons, StateT.run_bind, run_cons]
      cases ha : a.accepted? s.language with
      | none =>
          obtain ⟨changed, h⟩ := perform_of_none (f := f) ha
          rw [performIn_of_none (f := f) ha, accepted, List.filterMap_cons_none ha]
          refine (ih (s.perform f a) log).trans ?_
          rw [h]
          rfl
      | some d =>
          obtain ⟨_, hl⟩ := Action.accepted?_eq_some.mp ha
          rw [performIn_of_some ha, perform_of_some ha, accepted, List.filterMap_cons_some ha,
            parsesOf, List.map_cons, callsFor_cons, ← List.append_assoc, refreshIn_recorded hl]
          exact ih (s.keep d (f.parseOf (s.systemFor f) d)) _

/-! ## Where the front-end keeps its parses -/

/-- The parses that a session's front-end has kept. -/
def parses (f : FrontEnd σ π) (s : Session (σ × List (Parse σ))) : List (Parse σ) :=
  (s.systemFor f.traced).2

/-- The front-end keeps exactly the parses of the documents in the session's language. -/
theorem parses_run (s : Session (σ × List (Parse σ))) (actions : List Action) :
    (s.run f.traced actions).parses f =
      s.parses f ++
        (f.parsesOf (s.systemFor f.traced).1 (accepted s.language actions)).map (·.2) := by
  induction actions generalizing s with
  | nil =>
      rw [accepted, List.filterMap_nil, parsesOf, List.map_nil, List.append_nil]
      rfl
  | cons a rest ih =>
      refine (ih (s.perform f.traced a)).trans ?_
      cases ha : a.accepted? s.language with
      | none =>
          obtain ⟨changed, h⟩ := perform_of_none (f := f.traced) ha
          rw [h, accepted, accepted, List.filterMap_cons_none ha]
          rfl
      | some d =>
          -- the parse by the front-end that keeps its parses adds the parse by `f`
          have hparses : (s.keep d (f.traced.parseOf (s.systemFor f.traced) d)).parses f =
              s.parses f ++ [f.parseOf (s.systemFor f.traced).1 d] := rfl
          rw [perform_of_some ha, hparses, accepted, accepted, List.filterMap_cons_some ha,
            parsesOf, List.map_cons, List.append_assoc]
          rfl

/-- Whatever a session is asked for: if a document in its language is brought to it, a system is
built, once and before all else; then come a new program and a parse for each of these documents,
and these parses are the ones that the front-end itself gets to see. -/
theorem calls_run (f : FrontEnd σ π) (language : String) (actions : List Action) :
    ∃ parses : List (Parse σ),
      f.Threads (accepted language actions) parses ∧
      (runIn f.recorded { language } actions).run [] =
        (run f { language } actions,
          (if accepted language actions = [] then [] else [.newSystem]) ++
            parses.flatMap fun p => [.newProgram, .parse p]) ∧
      (run f.traced { language } actions).parses f = parses := by
  refine ⟨_, threads_parsesOf (accepted language actions), ?_, ?_⟩
  · rw [runIn_recorded, List.nil_append]
    cases accepted language actions with
    | nil => rfl
    | cons d rest => rfl
  · rw [parses_run]
    rfl

end Session

end DiagServer
