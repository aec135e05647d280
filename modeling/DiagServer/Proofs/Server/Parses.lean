import DiagServer.Proofs.Server.Client
import DiagServer.Proofs.Server.Systems
import DiagServer.Proofs.Session.Calls

/-!
# One parse for every publication

A server parses a document when it is opened or changed and is in the configured language, and it
publishes what the parse reported in the same turn. So its parses and its publications go in step
over all its streams: there are as many of the one as of the other, and a parse and a publication
in the same place come from one turn and are about one document, at one version and with one text.
No other kind of turn does either; that is a case for each rule of `Reaction`.

What counts as a parse is left to the front-end. It keeps those that it is called for beside its
system (`FrontEnd.traced`), which changes nothing else of what the server does.
-/

namespace DiagServer

open DiagServer.Protocol DiagServer.Frame

variable {σ π : Type} {f : FrontEnd σ π} {language source : String}

/-- Keeping its parses does not change what a front-end does. -/
theorem FrontEnd.traced_refines (f : FrontEnd σ π) : f.traced.Refines f Prod.fst where
  newSystem := rfl
  newProgram := rfl
  name := rfl
  parse := fun _ _ _ => rfl

/-- Two lists of one length, with elements in each place that are related as the place tells. -/
structure InStep {α β : Type} (R : Nat → α → β → Prop) (xs : List α) (ys : List β) : Prop where
  length_eq : xs.length = ys.length
  related : ∀ (i : Nat) (x : α) (y : β), xs[i]? = some x → ys[i]? = some y → R i x y

namespace InStep

variable {α β : Type} {R S : Nat → α → β → Prop} {xs : List α} {ys : List β}

theorem nil : InStep R [] [] := ⟨rfl, fun _ _ _ hx _ => by cases hx⟩

theorem imp (h : InStep R xs ys) (hle : ∀ i x y, R i x y → S i x y) : InStep S xs ys :=
  ⟨h.length_eq, fun i x y hx hy => hle i x y (h.related i x y hx hy)⟩

theorem concat (h : InStep R xs ys) {x : α} {y : β} (hlast : R xs.length x y) :
    InStep R (xs ++ [x]) (ys ++ [y]) where
  length_eq := by simp [h.length_eq]
  related := by
    intro i x' y' hx hy
    rcases Nat.lt_trichotomy i xs.length with hlt | rfl | hgt
    · rw [List.getElem?_append_left hlt] at hx
      rw [List.getElem?_append_left (h.length_eq ▸ hlt)] at hy
      exact h.related i x' y' hx hy
    · rw [List.getElem?_concat_length] at hx
      rw [h.length_eq, List.getElem?_concat_length] at hy
      cases hx
      cases hy
      exact hlast
    · rw [List.getElem?_eq_none (by simpa using Nat.succ_le_of_lt hgt)] at hx
      cases hx

end InStep

namespace Client

/-- The publications among some frames, whichever documents they are for. -/
def publications (frames : List Json) : List Json :=
  frames.filter fun frame => (publishedUri? frame).isSome

theorem publications_append (frames more : List Json) :
    publications (frames ++ more) = publications frames ++ publications more :=
  List.filter_append frames more

theorem publications_of_none {frame : Json} (h : publishedUri? frame = none) :
    publications [frame] = [] := by
  rw [publications, List.filter_cons_of_neg (by simp [h]), List.filter_nil]

theorem publications_of_some {frame : Json} {uri : String} (h : publishedUri? frame = some uri) :
    publications [frame] = [frame] := by
  rw [publications, List.filter_cons_of_pos (by simp [h]), List.filter_nil]

end Client

namespace Server

open Client

variable {s : Server (σ × List (Parse σ))}

/-- A turn in which a document is opened or changed, parsed and published: `p` is the only parse of
the turn, `frame` the only frame, and both are for the document `d` that the turn leaves open. -/
structure Refreshes (f : FrontEnd σ π) (s : Server (σ × List (Parse σ))) (o : Outcome)
    (p : Parse σ) (frame : Json) (d : OpenDocument) : Prop where
  parses : (s.step f.traced o).server.session.parses f = s.session.parses f ++ [p]
  frames : s.framesOf f.traced o = [frame]
  tracked : Keyed.find? d.document.id (s.step f.traced o).server.documents = some d
  file : p.file = f.name d.document.id
  input : p.input = Text.Utf8.encode d.document.text
  uri : publishedUri? frame = some d.document.id.uri
  version : publishedVersion? frame = some (.int d.version)
  shown : shown? frame = some (p.reports.map fun r => .of s.source r.toDiagnostic)

/-- A turn refreshes one document, or neither parses nor publishes anything. -/
theorem refreshes_or_quiet (hs : Sound language source s) (o : Outcome) :
    (∃ p frame d, Refreshes f s o p frame d) ∨
      ((s.step f.traced o).server.session.parses f = s.session.parses f ∧
        publications (s.framesOf f.traced o) = []) := by
  have hr : Reaction f.traced s o (s.framesOf f.traced o) (s.step f.traced o).server :=
    (reaction_step hs o).1
  generalize hframes : s.framesOf f.traced o = frames at hr
  generalize hserver : (s.step f.traced o).server = s' at hr
  cases hr with
  | notJson reason => exact .inr ⟨rfl, publications_of_none (publishedUri?_failure _ _)⟩
  | answered hr =>
      rename_i id method
      obtain ⟨phase, h⟩ := answer_server s id method
      rw [h]
      exact .inr ⟨rfl, publications_of_none (publishedUri?_answer s id method)⟩
  | parsed hn hp hd hl =>
      rename_i n d
      have hreports : s.session.diagnose f.traced d.document =
          (f.parseOf (s.session.systemFor f.traced).1 d.document).reports.map
            Report.toDiagnostic := by
        rw [Session.diagnose, Session.parse, FrontEnd.run_length]
        rfl
      refine .inl ⟨f.parseOf (s.session.systemFor f.traced).1 d.document, _, d, ?_, hframes, ?_,
        rfl, rfl, publishedUri?_publishDiagnostics _ _ _ _,
        publishedVersion?_publishDiagnostics _ _ _ _, ?_⟩
      · rw [hserver, Server.parsed, Session.parses, Session.parsed, Session.parse,
          FrontEnd.run_length]
        rfl
      · rw [hserver]
        exact Keyed.find?_put_self _ _ _
      · rw [shown?_publishDiagnostics, hreports, List.map_map]
        rfl
  | tracked hn hp hd hl => exact .inr ⟨rfl, rfl⟩
  | closed hn hp => exact .inr ⟨rfl, rfl⟩
  | refused hn hp hd => exact .inr ⟨rfl, rfl⟩
  | idle hj hr hn => exact .inr ⟨rfl, rfl⟩

/-- The parses that a server has made and the publications that it has written are in step: those
in place `i` come from one turn, before which the server had made `i` parses. -/
theorem refreshes_after (f : FrontEnd σ π) (language source : String) (os : List Outcome) :
    let s₀ : Server (σ × List (Parse σ)) := .new language source
    InStep
      (fun i p frame => ∃ seen o d, seen ++ [o] <+: os ∧
        ((s₀.after f.traced seen).session.parses f).length = i ∧
        Refreshes f (s₀.after f.traced seen) o p frame d)
      ((s₀.after f.traced os).session.parses f)
      (publications (s₀.framesFor f.traced os)) := by
  intro s₀
  induction os using List.reverseRecOn with
  | nil => exact .nil
  | append_singleton os o ih =>
      have hs : Sound language source (s₀.after f.traced os) := (Reach.start.after os).sound
      -- a turn among those before is one among all of them
      have hbefore := ih.imp fun i p frame ⟨seen, o', d, hle, h⟩ =>
        (⟨seen, o', d, hle.trans (List.prefix_append os [o]), h⟩ :
          ∃ seen o' d, seen ++ [o'] <+: os ++ [o] ∧
            ((s₀.after f.traced seen).session.parses f).length = i ∧
            Refreshes f (s₀.after f.traced seen) o' p frame d)
      rw [after_append, framesFor_append, publications_append, framesFor, framesFor,
        List.append_nil, after, List.foldl_cons, List.foldl_nil]
      rcases refreshes_or_quiet hs o with ⟨p, frame, d, h⟩ | ⟨hparses, hframes⟩
      · rw [h.parses, h.frames, publications_of_some h.uri]
        exact hbefore.concat ⟨os, o, d, List.prefix_rfl, rfl, h⟩
      · rw [hparses, hframes, List.append_nil]
        exact hbefore

/-- A session builds one system, before the first parse, if a document in its language is brought to
it, and none otherwise; each such document gets one program and one parse, which starts from the
system that the parse before has left. A server, whatever streams it has served and wherever it
stands in them, has made as many parses as it has written publications, and the parse and the
publication in each place are for the same document, at the version and with the text that the
server tracked in the turn of both. -/
theorem parses_in_step (f : FrontEnd σ π) (language source : String) :
    (∀ actions : List Session.Action,
      let brought := Session.accepted language actions
      ∃ parses : List (Parse σ),
        f.Threads brought parses ∧
          (Session.runIn f.recorded { language } actions).run [] =
            (Session.run f { language } actions,
              (if brought = [] then [] else [.newSystem]) ++
                parses.flatMap fun p => [.newProgram, .parse p]) ∧
          (Session.run f.traced { language } actions).parses f = parses) ∧
      ∀ (inputs : List (List UInt8)) (turns : Nat),
        let s₀ : Server σ := .new language source
        let heard := s₀.heardAll f inputs
        let read := heard.take turns
        let traced : Server (σ × List (Parse σ)) := .new language source
        let parses := (traced.after f.traced read).session.parses f
        let published := publications (s₀.framesFor f read)
        s₀.serveAll f inputs =
            ((traced.serveAll f.traced inputs).1.mapSystem Prod.fst,
              (s₀.framesFor f heard).map Frame.encode) ∧
          parses.length = published.length ∧
          ∀ (i : Nat) (p : Parse σ) (frame : Json),
            parses[i]? = some p → published[i]? = some frame →
              ∃ seen o d, seen ++ [o] <+: read ∧
                ((traced.after f.traced seen).session.parses f).length = i ∧
                Refreshes f (traced.after f.traced seen) o p frame d := by
  refine ⟨Session.calls_run f language, fun inputs turns => ?_⟩
  intro s₀ heard read traced parses published
  -- the server with `f` is the traced one, less what is kept beside its system
  have hserve := serveAll_mapSystem f.traced_refines traced inputs
  have hpublished : published = publications (traced.framesFor f.traced read) :=
    congrArg publications (framesFor_mapSystem f.traced_refines traced read)
  have hstep := refreshes_after f language source read
  rw [hpublished]
  refine ⟨Prod.ext ?_ ?_, hstep.length_eq, hstep.related⟩
  · exact congrArg (·.1) hserve
  · rw [serveAll_eq]

end Server

end DiagServer
