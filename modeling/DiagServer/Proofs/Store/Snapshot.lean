import DiagServer.Proofs.Store.History
import DiagServer.Proofs.Text.ByteOrder
import Mathlib.Data.List.Sort
import Mathlib.Algebra.BigOperators.Group.Finset.Basic

/-!
# Snapshots are canonical

A snapshot lists the documents that have diagnostics, sorted. No document has two entries in a
store, so the listing is strictly sorted, and a strictly sorted list is known by its members. These
are what the store is asked for document by document, so a snapshot tells nothing of the order in
which the documents came, of batches that were replaced, or of drains.
-/

namespace DiagServer

/-! ## The order of identities -/

namespace DocumentId

theorem isLE_total (a b : DocumentId) : ((compare a b).isLE || (compare b a).isLE) = true := by
  have h : compare a b = (compare b a).swap := Std.OrientedOrd.eq_swap (a := a.uri) (b := b.uri)
  rw [h]
  cases compare b a with
  | lt => rfl
  | eq => rfl
  | gt => rfl

theorem isLE_trans (a b c : DocumentId) (hab : (compare a b).isLE = true)
    (hbc : (compare b c).isLE = true) : (compare a c).isLE = true :=
  Std.TransOrd.isLE_trans (a := a.uri) (b := b.uri) (c := c.uri) hab hbc

/-- Identities are sorted by their bytes. -/
theorem encode_lt_of_isLE {a b : DocumentId} (h : (compare a b).isLE = true) (hne : a ≠ b) :
    Text.Utf8.encode a.uri < Text.Utf8.encode b.uri := by
  have huri : a.uri ≠ b.uri := fun heq => hne (congrArg DocumentId.mk heq)
  have h : (compareOfLessAndEq a.uri b.uri).isLE = true := h
  rw [compareOfLessAndEq] at h
  split at h
  · next hlt => exact Text.Utf8.encode_lt hlt
  · cases h

end DocumentId

namespace Store

/-! ## The entries of a store -/

theorem nodup_entries_after (ops : List Operation) :
    ((empty.after ops).entries.map (·.1)).Nodup := by
  induction ops using List.reverseRecOn with
  | nil => exact .nil
  | append_singleton ops op ih =>
      rw [after, List.foldl_concat]
      cases op with
      | publish id items => exact Keyed.nodup_put ih id items
      | get id => exact ih
      | diagnosticsFor id => exact ih
      | snapshot => exact ih
      | drain => exact ih

variable {s t : Store}

theorem get?_eq_some_of_ne_nil {items : List Diagnostic} (h : items ≠ []) (s : Store)
    (id : DocumentId) : s.get? id = some items ↔ s.diagnosticsFor id = items := by
  rw [diagnosticsFor]
  cases s.get? id with
  | none => simpa using h.symm
  | some stored => simp

/-! ## The files of a snapshot -/

theorem files_perm (s : Store) :
    s.snapshot.files.Perm (s.entries.filter fun e => !e.2.isEmpty) :=
  List.mergeSort_perm _ _

theorem mem_files (hs : (s.entries.map (·.1)).Nodup) (id : DocumentId)
    (items : List Diagnostic) :
    (id, items) ∈ s.snapshot.files ↔ items ≠ [] ∧ s.get? id = some items := by
  rw [s.files_perm.mem_iff, List.mem_filter, Keyed.mem_iff_find? hs, get?]
  simp [and_comm]

theorem nodup_files (hs : (s.entries.map (·.1)).Nodup) : (s.snapshot.files.map (·.1)).Nodup := by
  rw [(s.files_perm.map _).nodup_iff]
  exact hs.sublist (List.filter_sublist.map _)

/-- The files of a snapshot are strictly sorted by the bytes of their names. -/
theorem pairwise_files (hs : (s.entries.map (·.1)).Nodup) :
    s.snapshot.files.Pairwise fun a b =>
      Text.Utf8.encode a.1.uri < Text.Utf8.encode b.1.uri := by
  let le (a b : DocumentId × List Diagnostic) : Bool := (compare a.1 b.1).isLE
  have hsorted : s.snapshot.files.Pairwise fun a b => le a b = true :=
    @List.pairwise_mergeSort _ le (fun a b c => DocumentId.isLE_trans a.1 b.1 c.1)
      (fun a b => DocumentId.isLE_total a.1 b.1) (s.entries.filter fun e => !e.2.isEmpty)
  have hapart : s.snapshot.files.Pairwise fun a b => a.1 ≠ b.1 :=
    List.pairwise_map.mp (nodup_files hs)
  exact (hsorted.and hapart).imp fun h => DocumentId.encode_lt_of_isLE h.1 h.2

/-- Stores that hold the same diagnostics have the same snapshot. -/
theorem snapshot_ext (hs : (s.entries.map (·.1)).Nodup) (ht : (t.entries.map (·.1)).Nodup)
    (h : ∀ id, s.diagnosticsFor id = t.diagnosticsFor id) : s.snapshot = t.snapshot := by
  have hmem : ∀ e, e ∈ s.snapshot.files ↔ e ∈ t.snapshot.files := by
    intro ⟨id, items⟩
    rw [mem_files hs, mem_files ht]
    refine and_congr_right fun hne => ?_
    rw [get?_eq_some_of_ne_nil hne, get?_eq_some_of_ne_nil hne, h]
  refine congrArg Snapshot.mk ?_
  -- the order is strict, so only one list of these members is sorted
  let before (a b : DocumentId × List Diagnostic) : Prop :=
    Text.Utf8.encode a.1.uri < Text.Utf8.encode b.1.uri
  have : Std.Irrefl before := ⟨fun a => List.lt_irrefl _⟩
  have : Std.Antisymm before := ⟨fun a b hab hba => absurd hba (List.lt_asymm hab)⟩
  exact List.Pairwise.eq_of_mem_iff (r := before) (pairwise_files hs) (pairwise_files ht) hmem

/-- The total of a snapshot is the sum over any documents that include those with diagnostics. -/
theorem total_eq_sum (hs : (s.entries.map (·.1)).Nodup) (ids : Finset DocumentId)
    (h : ∀ id, s.diagnosticsFor id ≠ [] → id ∈ ids) :
    s.snapshot.total = ∑ id ∈ ids, (s.diagnosticsFor id).length := by
  have hmem : ∀ id, id ∈ s.snapshot.files.map (·.1) ↔ s.diagnosticsFor id ≠ [] := by
    intro id
    rw [List.mem_map]
    constructor
    · rintro ⟨⟨id, items⟩, he, rfl⟩
      have := (mem_files hs id items).mp he
      rw [(get?_eq_some_of_ne_nil this.1 s id).mp this.2]
      exact this.1
    · intro hne
      exact ⟨_, (mem_files hs id _).mpr ⟨hne, (get?_eq_some_of_ne_nil hne s id).mpr rfl⟩, rfl⟩
  calc s.snapshot.total
      = (s.snapshot.files.map fun e => (s.diagnosticsFor e.1).length).sum := by
        rw [Snapshot.total, List.length_flatMap]
        refine congrArg List.sum (List.map_congr_left fun e he => ?_)
        have := (mem_files hs e.1 e.2).mp he
        rw [(get?_eq_some_of_ne_nil this.1 s e.1).mp this.2]
    _ = ∑ id ∈ (s.snapshot.files.map (·.1)).toFinset, (s.diagnosticsFor id).length := by
        rw [List.sum_toFinset _ (nodup_files hs), List.map_map]
        rfl
    _ = ∑ id ∈ ids, (s.diagnosticsFor id).length := by
        refine Finset.sum_subset (fun id hid => ?_) (fun id _ hid => ?_)
        · exact h id ((hmem id).mp (List.mem_toFinset.mp hid))
        · rw [List.mem_toFinset, hmem, ne_eq, not_not] at hid
          rw [hid, List.length_nil]

theorem isEmpty_snapshot (hs : (s.entries.map (·.1)).Nodup) :
    s.snapshot.isEmpty = true ↔ ∀ id items, s.get? id = some items → items = [] := by
  rw [Snapshot.isEmpty, List.isEmpty_iff, List.eq_nil_iff_forall_not_mem, Prod.forall]
  refine forall_congr' fun id => forall_congr' fun items => ?_
  rw [mem_files hs, not_and, not_imp_not]

/-- Whatever was done with a store, a snapshot of it lists the documents that have diagnostics,
strictly sorted by the bytes of their names, each with what the store holds for it. It is empty if
no document has diagnostics, and it counts those published last for each of the documents. After
any other operations which leave every document with the same diagnostics, no matter whether it has
none of them or was never published, the snapshot is the same. -/
theorem snapshot_canonical (ops : List Operation) :
    let s := empty.after ops
    (s.snapshot.files.Pairwise fun a b =>
      Text.Utf8.encode a.1.uri < Text.Utf8.encode b.1.uri) ∧
    (∀ id items, (id, items) ∈ s.snapshot.files ↔ items ≠ [] ∧ s.get? id = some items) ∧
    (s.snapshot.isEmpty = true ↔ ∀ id items, s.get? id = some items → items = []) ∧
    s.snapshot.total = ∑ id ∈ ((publications ops).map (·.1)).toFinset,
      ((lastBatch? ops id).getD []).length ∧
    ∀ others : List Operation,
      (∀ id, (lastBatch? others id).getD [] = (lastBatch? ops id).getD []) →
      (empty.after others).snapshot = s.snapshot := by
  intro s
  have hs : (s.entries.map (·.1)).Nodup := nodup_entries_after ops
  have hstored : ∀ id, s.diagnosticsFor id = (lastBatch? ops id).getD [] :=
    (recalls_after ops).diagnosticsFor
  refine ⟨pairwise_files hs, mem_files hs, isEmpty_snapshot hs, ?_, fun others hsame => ?_⟩
  · simp only [← hstored]
    refine total_eq_sum hs _ fun id hne => ?_
    -- a document that was never published has no diagnostics
    rw [List.mem_toFinset]
    by_contra hnever
    refine hne ?_
    rw [hstored, lastBatch?, Keyed.last?_eq_none.mpr fun e he heq => ?_, Option.getD_none]
    exact hnever (List.mem_map.mpr ⟨e, he, heq⟩)
  · refine snapshot_ext (nodup_entries_after others) hs fun id => ?_
    rw [(recalls_after others).diagnosticsFor, hsame, hstored]

end Store

end DiagServer
