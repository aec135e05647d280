import DiagServer.Proofs.Json.Members
import DiagServer.Proofs.Server.Run

/-!
# What the client shows is what the store holds

A client keeps, for each document, the diagnostics of the last publication that names it. The
frames are read here as a client reads them, by the names of their members and without the
functions that made them. `Agrees` says that a client which got some frames shows exactly what the
store of a server holds; every rule of `Reaction` keeps it, since a rule that changes the store
writes one publication of the change, and no other rule writes a publication.
-/

namespace DiagServer

open DiagServer.Protocol DiagServer.Frame

namespace Json

/-- The integer, if the value is one. -/
def int? : Json → Option Int
  | .int i => some i
  | _ => none

/-- The items, if the value is an array. -/
def items? : Json → Option (List Json)
  | .arr items => some items
  | _ => none

end Json

namespace Client

/-- A diagnostic as a client shows it, each place as a line and a character counted from zero. -/
structure Shown where
  start : Int × Int
  stop : Int × Int
  severity : Int
  source : String
  message : String
deriving Repr, DecidableEq

/-- The line and the character of a place. -/
def place? (v : Json) : Option (Int × Int) := do
  some (← (← v.member? "line").int?, ← (← v.member? "character").int?)

/-- The diagnostic that a value in a publication stands for. -/
def Shown.ofJson? (v : Json) : Option Shown := do
  let range ← v.member? "range"
  some ⟨← place? (← range.member? "start"), ← place? (← range.member? "end"),
    ← (← v.member? "severity").int?, ← (← v.member? "source").text?,
    ← (← v.member? "message").text?⟩

/-- How a diagnostic of the store has to be shown: with its own range and message, as an error
(severity 1) and under the configured source. -/
def Shown.of (source : String) (d : Diagnostic) : Shown where
  start := (d.range.start.line.toNat, d.range.start.character.toNat)
  stop := (d.range.stop.line.toNat, d.range.stop.character.toNat)
  severity := 1
  source := source
  message := d.message

/-- The name of the document that a frame publishes diagnostics for, if it does that. -/
def publishedUri? (frame : Json) : Option String :=
  if (frame.member? "method").bind Json.text? = some "textDocument/publishDiagnostics" then
    (frame.member? "params").bind fun params => (params.member? "uri").bind Json.text?
  else none

/-- The version in a publication. -/
def publishedVersion? (frame : Json) : Option Json :=
  (frame.member? "params").bind fun params => params.member? "version"

/-- The diagnostics in a publication, in their order. -/
def shown? (frame : Json) : Option (List Shown) :=
  (frame.member? "params").bind fun params =>
    (params.member? "diagnostics").bind fun diagnostics =>
      diagnostics.items?.bind fun items => items.mapM Shown.ofJson?

/-- The publications for a document among some frames. -/
def publicationsFor (u : DocumentId) (frames : List Json) : List Json :=
  frames.filter fun frame => decide (publishedUri? frame = some u.uri)

/-! ## Reading the frames of the server -/

theorem place?_toJson (p : Position) :
    place? p.toJson = some ((p.line.toNat : Int), (p.character.toNat : Int)) := by
  simp [place?, Position.toJson, Json.member?, Json.int?, List.lookup_cons]

theorem shown_diagnosticJson (source : String) (d : Diagnostic) :
    Shown.ofJson? (diagnosticJson source d) = some (.of source d) := by
  have hstart : d.range.toJson.member? "start" = some d.range.start.toJson := by
    simp [Range.toJson, Json.member?, List.lookup_cons]
  have hend : d.range.toJson.member? "end" = some d.range.stop.toJson := by
    simp [Range.toJson, Json.member?]
  simp [Shown.ofJson?, diagnosticJson, Json.member?_object, List.lookup_cons, hstart, hend,
    place?_toJson, Json.int?, Json.text?, severityError, Shown.of]

theorem mapM_diagnosticJson (source : String) (items : List Diagnostic) :
    (items.map (diagnosticJson source)).mapM Shown.ofJson? =
      some (items.map (Shown.of source)) := by
  induction items with
  | nil => rfl
  | cons d rest ih => simp [shown_diagnosticJson, ih]

/-- The parameters of a publication. -/
def parameters (source : String) (id : DocumentId) (version : Option Int)
    (items : List Diagnostic) : Json :=
  .object ([("uri", .str id.uri)]
    ++ (match version with
        | some v => [("version", .int v)]
        | none => [])
    ++ [("diagnostics", .arr (items.map (diagnosticJson source)))])

theorem publishDiagnostics_eq (source : String) (id : DocumentId) (version : Option Int)
    (items : List Diagnostic) :
    publishDiagnostics source id version items =
      .object [("jsonrpc", .str Protocol.version),
        ("method", .str "textDocument/publishDiagnostics"),
        ("params", parameters source id version items)] := rfl

theorem member?_params (source : String) (id : DocumentId) (version : Option Int)
    (items : List Diagnostic) :
    (publishDiagnostics source id version items).member? "params" =
      some (parameters source id version items) := by
  rw [publishDiagnostics_eq, Json.member?_object]
  rfl

theorem publishedUri?_publishDiagnostics (source : String) (id : DocumentId) (version : Option Int)
    (items : List Diagnostic) :
    publishedUri? (publishDiagnostics source id version items) = some id.uri := by
  have hmethod : (publishDiagnostics source id version items).member? "method" =
      some (.str "textDocument/publishDiagnostics") := by
    rw [publishDiagnostics_eq, Json.member?_object]
    rfl
  have huri : (parameters source id version items).member? "uri" = some (.str id.uri) := by
    cases version with
    | none => rw [parameters, Json.member?_object]; rfl
    | some v => rw [parameters, Json.member?_object]; rfl
  rw [publishedUri?, hmethod, member?_params, if_pos (by rfl), Option.bind_some, huri]
  rfl

theorem publishedVersion?_publishDiagnostics (source : String) (id : DocumentId) (version : Int)
    (items : List Diagnostic) :
    publishedVersion? (publishDiagnostics source id (some version) items) =
      some (.int version) := by
  rw [publishedVersion?, member?_params, Option.bind_some, parameters, Json.member?_object]
  rfl

theorem shown?_publishDiagnostics (source : String) (id : DocumentId) (version : Option Int)
    (items : List Diagnostic) :
    shown? (publishDiagnostics source id version items) = some (items.map (Shown.of source)) := by
  have hitems : (parameters source id version items).member? "diagnostics" =
      some (.arr (items.map (diagnosticJson source))) := by
    cases version with
    | none => rw [parameters, Json.member?_object]; rfl
    | some v => rw [parameters, Json.member?_object]; rfl
  rw [shown?, member?_params, Option.bind_some, hitems]
  exact mapM_diagnosticJson source items

theorem publishedUri?_success (id result : Json) : publishedUri? (success id result) = none := by
  rw [publishedUri?, success, Json.member?_object]
  rfl

theorem publishedUri?_failure (id : Json) (r : Refusal) :
    publishedUri? (Protocol.failure id r) = none := by
  rw [publishedUri?, Protocol.failure, Json.member?_object]
  rfl

theorem answer_frame {σ : Type} (s : Server σ) (id : Json) (method : String) :
    (∃ result, (s.answer id method).1 = success id result) ∨
      ∃ r, (s.answer id method).1 = Protocol.failure id r := by
  have h := Server.answer_cases s id method
  generalize (s.answer id method).1 = frame, (s.answer id method).2 = s' at h
  cases h with
  | initialized hp => exact .inl ⟨_, rfl⟩
  | shutDown hp => exact .inl ⟨_, rfl⟩
  | _ => exact .inr ⟨_, rfl⟩

theorem publishedUri?_answer {σ : Type} (s : Server σ) (id : Json) (method : String) :
    publishedUri? (s.answer id method).1 = none := by
  rcases answer_frame s id method with ⟨result, h⟩ | ⟨r, h⟩
  · rw [h, publishedUri?_success]
  · rw [h, publishedUri?_failure]

/-! ## The publications so far -/

theorem publicationsFor_append (u : DocumentId) (frames more : List Json) :
    publicationsFor u (frames ++ more) = publicationsFor u frames ++ publicationsFor u more :=
  List.filter_append frames more

theorem publicationsFor_of_none {frame : Json} (h : publishedUri? frame = none) (u : DocumentId) :
    publicationsFor u [frame] = [] := by
  rw [publicationsFor, List.filter_cons_of_neg (by simp [h]), List.filter_nil]

theorem publicationsFor_publishDiagnostics (u : DocumentId) (source : String) (id : DocumentId)
    (version : Option Int) (items : List Diagnostic) :
    publicationsFor u [publishDiagnostics source id version items] =
      if id = u then [publishDiagnostics source id version items] else [] := by
  rw [publicationsFor, List.filter_cons, publishedUri?_publishDiagnostics, List.filter_nil]
  obtain ⟨uri⟩ := u
  obtain ⟨uri'⟩ := id
  simp only [Option.some.injEq, decide_eq_true_eq, DocumentId.mk.injEq]

variable {σ π : Type} {f : FrontEnd σ π} {language source : String} {s s' : Server σ}

/-- A client that got these frames shows what the server's store holds. -/
def Agrees (source : String) (frames : List Json) (s : Server σ) : Prop :=
  ∀ u : DocumentId, (publicationsFor u frames).getLast?.map shown? =
    (s.session.store.get? u).map fun items => some (items.map (Shown.of source))

theorem Agrees.append_of_none {frames : List Json} {frame : Json} (h : Agrees source frames s)
    (hn : publishedUri? frame = none) : Agrees source (frames ++ [frame]) s := by
  intro u
  rw [publicationsFor_append, publicationsFor_of_none hn, List.append_nil]
  exact h u

/-- A turn keeps the client and the store in agreement. -/
theorem Agrees.reaction {o : Outcome} {frames more : List Json}
    (hs : Server.Sound language source s) (h : Agrees source frames s)
    (hr : Server.Reaction f s o more s') : Agrees source (frames ++ more) s' := by
  cases hr with
  | notJson reason => exact h.append_of_none (publishedUri?_failure _ _)
  | answered hr =>
      rename_i id method
      obtain ⟨phase, hserver⟩ := Server.answer_server s id method
      rw [hserver]
      exact Agrees.append_of_none (s := { s with phase }) h (publishedUri?_answer s id method)
  | parsed hn hp hd hl =>
      rename_i n d
      intro u
      -- the store and the frames change under one name only, the document's
      rw [publicationsFor_append, publicationsFor_publishDiagnostics]
      show _ = ((s.session.parsed f d.document).store.get? u).map _
      rw [Session.get?_parsed]
      by_cases hu : d.document.id = u
      · rw [if_pos hu, if_pos hu, List.getLast?_concat, hs.source_eq]
        simp only [Option.map_some, shown?_publishDiagnostics]
      · rw [if_neg hu, if_neg hu, List.append_nil]
        exact h u
  | tracked hn hp hd hl => rw [List.append_nil]; exact h
  | closed hn hp => rw [List.append_nil]; exact h
  | refused hn hp hd => rw [List.append_nil]; exact h
  | idle hj hr hn => rw [List.append_nil]; exact h

theorem Agrees.after {frames : List Json} (hs : Server.Sound language source s)
    (h : Agrees source frames s) (os : List Outcome) :
    Agrees source (frames ++ s.framesFor f os) (s.after f os) := by
  induction os generalizing s frames with
  | nil => rw [Server.framesFor, List.append_nil]; exact h
  | cons o rest ih =>
      have hr := (Server.reaction_step (f := f) hs o).1
      rw [Server.framesFor, ← List.append_assoc]
      exact ih (hs.reaction hr) (h.reaction hs hr)

theorem Agrees.new (language source : String) :
    Agrees source [] (.new language source : Server σ) := fun _ => rfl

/-- However many streams a server serves and however each of them ends, the frames that were
written by then show a client what the store holds: no publication of a document that the store
does not know, and otherwise the stored diagnostics in the last one. Between two outcomes nothing
is pending, so no change waits for a later turn and none is sent again. -/
theorem shown_eq_stored (f : FrontEnd σ π) (language source : String) (inputs : List (List UInt8)) :
    let s₀ : Server σ := .new language source
    let frames := s₀.framesFor f (s₀.heardAll f inputs)
    let store := (s₀.serveAll f inputs).1.session.store
    (s₀.serveAll f inputs).2 = frames.map Frame.encode ∧
      (∀ u : DocumentId,
        (publicationsFor u frames = [] ↔ store.get? u = none) ∧
          (publicationsFor u frames).getLast?.map shown? =
            (store.get? u).map fun items => some (items.map (Shown.of source))) ∧
      ∀ turns : Nat,
        (s₀.after f ((s₀.heardAll f inputs).take turns)).session.store.changed = [] := by
  intro s₀ frames store
  have hserve := Server.serveAll_eq (f := f) s₀ inputs
  have hsound : Server.Sound language source s₀ := .new language source
  have hagrees : Agrees source frames (s₀.serveAll f inputs).1 := by
    rw [hserve]
    exact (Agrees.new language source).after hsound _
  refine ⟨by rw [hserve], fun u => ⟨?_, hagrees u⟩, fun turns => ?_⟩
  · have := congrArg Option.isNone (hagrees u)
    rw [Option.isNone_map, Option.isNone_map] at this
    rw [← List.getLast?_eq_none_iff, ← Option.isNone_iff_eq_none, this,
      Option.isNone_iff_eq_none]
  · exact (Server.Reach.start.after _).sound.settled

end Client

end DiagServer
