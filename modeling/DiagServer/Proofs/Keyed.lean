import DiagServer.Keyed

/-!
# Keyed lists are finite maps

Everything a keyed list is asked is what it holds under a key, so two equations, one for each
operation that changes it, are all that the proofs about stores and open documents need. A listing
of all its entries asks for one thing more: no key comes twice.
-/

namespace DiagServer.Keyed

variable {α β : Type} [DecidableEq α]

@[simp]
theorem find?_nil (key : α) : find? key ([] : List (α × β)) = none := rfl

theorem find?_put (key key' : α) (value : β) (entries : List (α × β)) :
    find? key' (put key value entries) =
      if key = key' then some value else find? key' entries := by
  induction entries with
  | nil => rfl
  | cons e rest ih =>
      obtain ⟨k, v⟩ := e
      by_cases hk : k = key
      · subst hk
        rw [put, if_pos rfl, find?, find?]
        split
        · rfl
        · rfl
      · rw [put, if_neg hk, find?, find?, ih]
        by_cases hk' : k = key'
        · rw [if_pos hk', if_neg (fun h => hk (hk'.trans h.symm)), if_pos hk']
        · rw [if_neg hk', if_neg hk']

theorem find?_put_self (key : α) (value : β) (entries : List (α × β)) :
    find? key (put key value entries) = some value := by
  rw [find?_put, if_pos rfl]

theorem find?_erase (key key' : α) (entries : List (α × β)) :
    find? key' (erase key entries) = if key = key' then none else find? key' entries := by
  induction entries with
  | nil => simp [erase]
  | cons e rest ih =>
      obtain ⟨k, v⟩ := e
      rw [erase] at ih ⊢
      by_cases hk : k = key
      · rw [List.filter_cons_of_neg (by simp [hk]), ih, find?]
        by_cases hk' : key = key'
        · rw [if_pos hk', if_pos hk']
        · rw [if_neg hk', if_neg hk', if_neg (fun h => hk' (hk.symm.trans h))]
      · rw [List.filter_cons_of_pos (by simp [hk]), find?, find?, ih]
        by_cases hk' : k = key'
        · rw [if_pos hk', if_neg (fun h => hk (hk'.trans h.symm)), if_pos hk']
        · rw [if_neg hk', if_neg hk']

theorem erase_eq_self {key : α} {entries : List (α × β)} (h : find? key entries = none) :
    erase key entries = entries := by
  induction entries with
  | nil => rfl
  | cons e rest ih =>
      obtain ⟨k, v⟩ := e
      rw [find?] at h
      split at h
      · cases h
      · next hk =>
          rw [erase] at ih ⊢
          rw [List.filter_cons_of_pos (by simp [hk]), ih h]

/-! ## Entries -/

theorem mem_keys_put {key key' : α} {value : β} {entries : List (α × β)} :
    key' ∈ (put key value entries).map (·.1) ↔ key' = key ∨ key' ∈ entries.map (·.1) := by
  induction entries with
  | nil => simp [put]
  | cons e rest ih =>
      obtain ⟨k, v⟩ := e
      rw [put]
      split
      · next hk => simp [hk]
      · rw [List.map_cons, List.mem_cons, ih, List.map_cons, List.mem_cons, or_left_comm]

/-- Putting a value keeps the keys apart. -/
theorem nodup_put {entries : List (α × β)} (h : (entries.map (·.1)).Nodup) (key : α) (value : β) :
    ((put key value entries).map (·.1)).Nodup := by
  induction entries with
  | nil => simp [put]
  | cons e rest ih =>
      obtain ⟨k, v⟩ := e
      rw [List.map_cons, List.nodup_cons] at h
      rw [put]
      split
      · next hk =>
          rw [hk] at h
          exact List.nodup_cons.mpr h
      · next hk =>
          refine List.nodup_cons.mpr ⟨fun hmem => ?_, ih h.2⟩
          exact (mem_keys_put.mp hmem).elim hk h.1

/-- Where no key comes twice, the entries are what is found under the keys. -/
theorem mem_iff_find? {entries : List (α × β)} (h : (entries.map (·.1)).Nodup) (key : α)
    (value : β) : (key, value) ∈ entries ↔ find? key entries = some value := by
  induction entries with
  | nil => simp
  | cons e rest ih =>
      obtain ⟨k, v⟩ := e
      rw [List.map_cons, List.nodup_cons] at h
      rw [List.mem_cons, find?]
      split
      · next hk =>
          -- the key stands at the front, so it does not stand in the rest
          have hrest : (key, value) ∉ rest := fun hmem =>
            h.1 (List.mem_map.mpr ⟨(key, value), hmem, hk.symm⟩)
          simp [hrest, hk, eq_comm]
      · next hk => simp [ih h.2, Ne.symm hk]

/-! ## Logs

A log is a keyed list that nothing is ever replaced in, so a key may come many times. What counts
is the value that came last. -/

/-- The value that came last under a key. -/
def last? (key : α) (log : List (α × β)) : Option β :=
  (log.filter fun e => e.1 = key).getLast?.map (·.2)

@[simp]
theorem last?_nil (key : α) : last? key ([] : List (α × β)) = none := rfl

theorem last?_concat (key key' : α) (value : β) (log : List (α × β)) :
    last? key' (log ++ [(key, value)]) = if key = key' then some value else last? key' log := by
  rw [last?, List.filter_append]
  by_cases h : key = key'
  · rw [List.filter_cons_of_pos (by simpa using h), List.filter_nil, List.getLast?_concat, if_pos h]
    rfl
  · rw [List.filter_cons_of_neg (by simpa using h), List.filter_nil, List.append_nil, if_neg h]
    rfl

theorem last?_cons (key key' : α) (value : β) (log : List (α × β)) :
    last? key' ((key, value) :: log) =
      (last? key' log).or (if key = key' then some value else none) := by
  rw [last?, last?]
  by_cases h : key = key'
  · rw [List.filter_cons_of_pos (by simpa using h), List.getLast?_cons, if_pos h]
    cases (log.filter fun e => e.1 = key').getLast? <;> rfl
  · rw [List.filter_cons_of_neg (by simpa using h), if_neg h, Option.or_none]

theorem last?_map {γ : Type} (g : β → γ) (key : α) (log : List (α × β)) :
    last? key (log.map fun e => (e.1, g e.2)) = (last? key log).map g := by
  induction log with
  | nil => rfl
  | cons e rest ih =>
      rw [List.map_cons, last?_cons, last?_cons, ih]
      cases last? key rest with
      | some value => rfl
      | none =>
          rw [Option.map_none, Option.none_or, Option.none_or]
          split
          · rfl
          · rfl

theorem mem_of_last? {key : α} {value : β} {log : List (α × β)} (h : last? key log = some value) :
    (key, value) ∈ log := by
  rw [last?, Option.map_eq_some_iff] at h
  obtain ⟨e, he, rfl⟩ := h
  obtain ⟨hmem, hkey⟩ := List.mem_filter.mp (List.mem_of_getLast? he)
  rw [← of_decide_eq_true hkey]
  exact hmem

theorem last?_eq_none {key : α} {log : List (α × β)} :
    last? key log = none ↔ ∀ e ∈ log, e.1 ≠ key := by
  simp [last?]

/-- Where a key comes once only, its one value is the last. -/
theorem last?_of_mem {log : List (α × β)} (hlog : (log.map (·.1)).Nodup) {key : α} {value : β}
    (h : (key, value) ∈ log) : last? key log = some value := by
  induction log with
  | nil => cases h
  | cons e rest ih =>
      rw [List.map_cons, List.nodup_cons] at hlog
      rw [last?_cons]
      rcases List.mem_cons.mp h with rfl | h
      · have hrest : last? key rest = none :=
          last?_eq_none.mpr fun e he heq => hlog.1 (List.mem_map.mpr ⟨e, he, heq⟩)
        rw [hrest, Option.none_or, if_pos rfl]
      · rw [ih hlog.2 h, Option.some_or]

end DiagServer.Keyed
