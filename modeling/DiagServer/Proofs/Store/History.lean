import DiagServer.Proofs.Keyed
import DiagServer.Store
import Mathlib.Data.List.DropRight

/-!
# What a store holds, told by its history

A store keeps a map and a list of changes, and forgets how they came about. Its answers can be told
from the history of its operations all the same: what it holds for a document is the batch
published last for it, and what is due are the documents published since the last drain, each at
the place of its first publication since then. `Recalls` says that a store and a history agree on
both, and each operation keeps it.

The order of the two is where they part. A batch is replaced where its document stands, so the
list of changes is ordered by the first publications while it is drained with the last batches.
-/

namespace DiagServer

/-- The elements of a list, each once and in the order in which they first occur in it. -/
structure FirstOccurrences {α : Type} [DecidableEq α] (xs ys : List α) : Prop where
  mem_iff : ∀ a, a ∈ ys ↔ a ∈ xs
  ordered : ys.Pairwise fun a b => xs.idxOf a < xs.idxOf b

namespace FirstOccurrences

variable {α : Type} [DecidableEq α] {a : α} {xs ys : List α}

theorem nil : FirstOccurrences ([] : List α) [] := ⟨fun _ => Iff.rfl, .nil⟩

theorem nodup (h : FirstOccurrences xs ys) : ys.Nodup :=
  h.ordered.imp fun hlt heq => by
    rw [heq] at hlt
    exact Nat.lt_irrefl _ hlt

theorem ordered_concat (h : FirstOccurrences xs ys) (a : α) :
    ys.Pairwise fun b c => (xs ++ [a]).idxOf b < (xs ++ [a]).idxOf c := by
  refine h.ordered.imp_of_mem fun hb hc hlt => ?_
  rwa [List.idxOf_append_of_mem ((h.mem_iff _).mp hb),
    List.idxOf_append_of_mem ((h.mem_iff _).mp hc)]

theorem concat_of_mem (h : FirstOccurrences xs ys) (ha : a ∈ ys) :
    FirstOccurrences (xs ++ [a]) ys where
  mem_iff := by
    intro b
    rw [List.mem_append, List.mem_singleton, h.mem_iff]
    refine ⟨.inl, fun hb => hb.elim id fun heq => ?_⟩
    rw [heq]
    exact (h.mem_iff a).mp ha
  ordered := h.ordered_concat a

theorem concat_of_notMem (h : FirstOccurrences xs ys) (ha : a ∉ ys) :
    FirstOccurrences (xs ++ [a]) (ys ++ [a]) where
  mem_iff := by
    intro b
    rw [List.mem_append, List.mem_append, h.mem_iff]
  ordered := by
    have hxs : a ∉ xs := fun hmem => ha ((h.mem_iff a).mpr hmem)
    refine List.pairwise_append.mpr ⟨h.ordered_concat a, List.pairwise_singleton _ _, ?_⟩
    intro b hb c hc
    rw [List.mem_singleton] at hc
    have hbxs : b ∈ xs := (h.mem_iff b).mp hb
    rw [hc, List.idxOf_append_of_mem hbxs, List.idxOf_append_of_notMem hxs]
    exact Nat.lt_of_lt_of_le (List.idxOf_lt_length_of_mem hbxs) (Nat.le_add_right _ _)

end FirstOccurrences

namespace Store

/-! ## Operations and their history -/

/-- What may be asked of a store. -/
inductive Operation where
  | publish (id : DocumentId) (items : List Diagnostic)
  | get (id : DocumentId)
  | diagnosticsFor (id : DocumentId)
  | snapshot
  | drain
deriving Repr, DecidableEq

/-- The store that an operation leaves. Looking something up leaves it as it is. -/
def perform (s : Store) : Operation → Store
  | .publish id items => s.publish id items
  | .get _ => s
  | .diagnosticsFor _ => s
  | .snapshot => s
  | .drain => s.drain.2

/-- The store after some operations. -/
def after (s : Store) (ops : List Operation) : Store := ops.foldl perform s

/-- The document and the batch of a publication. -/
def Operation.publication? : Operation → Option (DocumentId × List Diagnostic)
  | .publish id items => some (id, items)
  | _ => none

/-- Whether an operation takes the changes. -/
def Operation.drains : Operation → Bool
  | .drain => true
  | _ => false

/-- The publications of a history, in their order. -/
def publications (ops : List Operation) : List (DocumentId × List Diagnostic) :=
  ops.filterMap Operation.publication?

/-- The batch published last for a document. -/
def lastBatch? (ops : List Operation) (id : DocumentId) : Option (List Diagnostic) :=
  Keyed.last? id (publications ops)

/-- The documents of the publications since the last drain, or since the start if there was none. -/
def publishedSinceDrain (ops : List Operation) : List DocumentId :=
  (publications (ops.rtakeWhile fun op => !op.drains)).map (·.1)

theorem publications_append (ops more : List Operation) :
    publications (ops ++ more) = publications ops ++ publications more :=
  List.filterMap_append

theorem publications_concat_of_none (ops : List Operation) {op : Operation}
    (h : op.publication? = none) : publications (ops ++ [op]) = publications ops := by
  rw [publications_append, publications, publications, List.filterMap_cons_none h,
    List.filterMap_nil, List.append_nil]

theorem lastBatch?_publish (ops : List Operation) (id u : DocumentId) (items : List Diagnostic) :
    lastBatch? (ops ++ [.publish id items]) u =
      if id = u then some items else lastBatch? ops u := by
  rw [lastBatch?, publications_append]
  exact Keyed.last?_concat id u items (publications ops)

theorem lastBatch?_concat_of_none (ops : List Operation) {op : Operation}
    (h : op.publication? = none) (u : DocumentId) :
    lastBatch? (ops ++ [op]) u = lastBatch? ops u := by
  rw [lastBatch?, lastBatch?, publications_concat_of_none ops h]

theorem publishedSinceDrain_publish (ops : List Operation) (id : DocumentId)
    (items : List Diagnostic) :
    publishedSinceDrain (ops ++ [.publish id items]) = publishedSinceDrain ops ++ [id] := by
  rw [publishedSinceDrain, List.rtakeWhile_concat_pos _ _ _ rfl, publications_append,
    List.map_append]
  rfl

theorem publishedSinceDrain_drain (ops : List Operation) :
    publishedSinceDrain (ops ++ [.drain]) = [] := by
  rw [publishedSinceDrain, List.rtakeWhile_concat_neg _ _ _ (by simp [Operation.drains])]
  rfl

theorem publishedSinceDrain_concat_of_none (ops : List Operation) {op : Operation}
    (h : op.publication? = none) (hd : op.drains = false) :
    publishedSinceDrain (ops ++ [op]) = publishedSinceDrain ops := by
  rw [publishedSinceDrain, List.rtakeWhile_concat_pos _ _ _ (by simp [hd]),
    publications_concat_of_none _ h, publishedSinceDrain]

/-- What was published since the last drain was published. -/
theorem exists_lastBatch {ops : List Operation} {id : DocumentId}
    (h : id ∈ publishedSinceDrain ops) : ∃ items, lastBatch? ops id = some items := by
  rw [← Option.isSome_iff_exists, ← Option.ne_none_iff_isSome, lastBatch?, ne_eq,
    Keyed.last?_eq_none]
  intro hnone
  obtain ⟨e, he, hid⟩ := List.mem_map.mp h
  refine hnone e ?_ hid
  exact ((List.rtakeWhile_suffix _ ops).sublist.filterMap _).subset he

/-! ## The store agrees with its history -/

/-- A store that holds what its history tells. -/
structure Recalls (ops : List Operation) (s : Store) : Prop where
  stored : ∀ id, s.get? id = lastBatch? ops id
  due : FirstOccurrences (publishedSinceDrain ops) s.changed

variable {ops : List Operation} {s : Store}

theorem get?_publish (s : Store) (id u : DocumentId) (items : List Diagnostic) :
    (s.publish id items).get? u = if id = u then some items else s.get? u :=
  Keyed.find?_put id u items s.entries

theorem Recalls.publish (h : Recalls ops s) (id : DocumentId) (items : List Diagnostic) :
    Recalls (ops ++ [.publish id items]) (s.publish id items) where
  stored := by
    intro u
    rw [get?_publish, lastBatch?_publish, h.stored]
  due := by
    rw [publishedSinceDrain_publish, Store.publish]
    by_cases hid : id ∈ s.changed
    · rw [if_pos hid]
      exact h.due.concat_of_mem hid
    · rw [if_neg hid]
      exact h.due.concat_of_notMem hid

theorem Recalls.drain (h : Recalls ops s) : Recalls (ops ++ [.drain]) s.drain.2 where
  stored := by
    intro u
    rw [lastBatch?_concat_of_none ops rfl]
    exact h.stored u
  due := by
    rw [publishedSinceDrain_drain]
    exact .nil

theorem Recalls.lookUp (h : Recalls ops s) {op : Operation} (hp : op.publication? = none)
    (hd : op.drains = false) : Recalls (ops ++ [op]) s where
  stored := by
    intro u
    rw [lastBatch?_concat_of_none ops hp]
    exact h.stored u
  due := by
    rw [publishedSinceDrain_concat_of_none ops hp hd]
    exact h.due

theorem Recalls.perform (h : Recalls ops s) (op : Operation) :
    Recalls (ops ++ [op]) (s.perform op) := by
  cases op with
  | publish id items => exact h.publish id items
  | get id => exact h.lookUp rfl rfl
  | diagnosticsFor id => exact h.lookUp rfl rfl
  | snapshot => exact h.lookUp rfl rfl
  | drain => exact h.drain

/-- Every store is what its history tells. -/
theorem recalls_after (ops : List Operation) : Recalls ops (empty.after ops) := by
  induction ops using List.reverseRecOn with
  | nil => exact ⟨fun _ => rfl, .nil⟩
  | append_singleton ops op ih =>
      rw [after, List.foldl_concat]
      exact ih.perform op

theorem Recalls.diagnosticsFor (h : Recalls ops s) (id : DocumentId) :
    s.diagnosticsFor id = (lastBatch? ops id).getD [] := by
  rw [Store.diagnosticsFor, h.stored]

/-- A drain hands on each document with the batch published last for it. -/
theorem Recalls.latest (h : Recalls ops s) {c : DocumentId × List Diagnostic}
    (hc : c ∈ s.drain.1) : lastBatch? ops c.1 = some c.2 := by
  obtain ⟨id, hid, rfl⟩ := List.mem_map.mp hc
  obtain ⟨items, hitems⟩ := exists_lastBatch ((h.due.mem_iff id).mp hid)
  rw [h.diagnosticsFor, hitems]
  rfl

theorem map_fst_drain (s : Store) : s.drain.1.map (·.1) = s.changed := by
  rw [drain, List.map_map]
  exact List.map_id _

/-! ## Draining shows nowhere else -/

theorem after_append (s : Store) (ops more : List Operation) :
    s.after (ops ++ more) = (s.after ops).after more :=
  List.foldl_append

/-- What is stored after some operations does not depend on what was due before them. -/
theorem entries_after {s t : Store} (h : s.entries = t.entries) (ops : List Operation) :
    (s.after ops).entries = (t.after ops).entries := by
  induction ops generalizing s t with
  | nil => exact h
  | cons op rest ih =>
      refine ih ?_
      cases op with
      | publish id items => exact congrArg (Keyed.put id items) h
      | get id => exact h
      | diagnosticsFor id => exact h
      | snapshot => exact h
      | drain => exact h

/-- Whatever was done with a store before: it holds the batch published last for each document, and
no batch for a document never published. A drain now takes the documents published since the last
drain, each once, in the order of their first publications since then and with the batches
published last, so it takes nothing if nothing was published; and whatever follows, no document is
looked up and no snapshot taken with another answer than if the drain had been left out. -/
theorem drain_by_history (before : List Operation) :
    let s := empty.after before
    (∀ id, s.get? id = lastBatch? before id ∧
      s.diagnosticsFor id = (lastBatch? before id).getD []) ∧
    (s.drain.1.map (·.1)).Nodup ∧
    FirstOccurrences (publishedSinceDrain before) (s.drain.1.map (·.1)) ∧
    (∀ c ∈ s.drain.1, lastBatch? before c.1 = some c.2) ∧
    (s.drain.1 = [] ↔ publishedSinceDrain before = []) ∧
    ∀ later : List Operation,
      let drained := empty.after (before ++ .drain :: later)
      let undrained := empty.after (before ++ later)
      (∀ id, drained.get? id = undrained.get? id ∧
        drained.diagnosticsFor id = undrained.diagnosticsFor id) ∧
      drained.snapshot = undrained.snapshot := by
  intro s
  have h : Recalls before s := recalls_after before
  have hdue : FirstOccurrences (publishedSinceDrain before) (s.drain.1.map (·.1)) := by
    rw [map_fst_drain]
    exact h.due
  refine ⟨fun id => ⟨h.stored id, h.diagnosticsFor id⟩, hdue.nodup, hdue, fun c => h.latest, ?_,
    fun later => ?_⟩
  · rw [← List.map_eq_nil_iff (f := fun c : DocumentId × List Diagnostic => c.1),
      List.eq_nil_iff_forall_not_mem, List.eq_nil_iff_forall_not_mem]
    exact forall_congr' fun id => not_congr (hdue.mem_iff id)
  · intro drained undrained
    have hentries : drained.entries = undrained.entries := by
      simp only [drained, undrained, after_append]
      exact entries_after (s := s.drain.2) (t := s) rfl later
    have hget : ∀ id, drained.get? id = undrained.get? id := by
      intro id
      rw [get?, get?, hentries]
    refine ⟨fun id => ⟨hget id, ?_⟩, ?_⟩
    · rw [Store.diagnosticsFor, Store.diagnosticsFor, hget]
    · rw [snapshot, snapshot, hentries]

/-- The order is that of the first publications, the batches are the last ones. -/
example :
    let d : Diagnostic := ⟨⟨⟨0, 0⟩, ⟨0, 4⟩⟩, "bad"⟩
    (empty.after [.publish ⟨"a"⟩ [], .publish ⟨"b"⟩ [], .publish ⟨"a"⟩ [d]]).drain.1 =
      [(⟨"a"⟩, [d]), (⟨"b"⟩, [])] := by
  decide

end Store

end DiagServer
