import DiagServer.Path

/-!
# Components say what a path says

A path that is written from its components has these components again, as long as each of them is a
name: not empty, not the dot of the directory itself, and without a slash. The components of any
path are such names, so making a path absolute and taking it apart loses nothing but the parts that
say nothing.
-/

namespace DiagServer.Path

/-- What may stand between two slashes and leads somewhere else. -/
structure IsName (c : List UInt8) : Prop where
  ne_nil : c ≠ []
  ne_here : c ≠ here
  notMem : slash ∉ c

variable {name path : List UInt8} {cs : List (List UInt8)}

/-! ## Splitting -/

theorem splitFrom_append (h : slash ∉ name) (current rest : List UInt8) :
    splitFrom current (name ++ rest) = splitFrom (name.reverse ++ current) rest := by
  induction name generalizing current with
  | nil => rfl
  | cons b name ih =>
      rw [List.mem_cons, not_or] at h
      rw [List.cons_append, splitFrom, if_neg (Ne.symm h.1), ih h.2, List.reverse_cons,
        List.append_assoc]
      rfl

/-- Each slash starts a part of its own. -/
theorem splitFrom_flatMap (h : ∀ c ∈ cs, slash ∉ c) (current : List UInt8) :
    splitFrom current (cs.flatMap fun c => slash :: c) = current.reverse :: cs := by
  induction cs generalizing current with
  | nil => rfl
  | cons c cs ih =>
      rw [List.forall_mem_cons] at h
      rw [List.flatMap_cons, List.cons_append, splitFrom, if_pos rfl, splitFrom_append h.1,
        List.append_nil, ih h.2, List.reverse_reverse]

theorem notMem_of_mem_splitFrom {current part : List UInt8} (h : slash ∉ current)
    (hpart : part ∈ splitFrom current path) : slash ∉ part := by
  induction path generalizing current with
  | nil =>
      rw [splitFrom, List.mem_singleton] at hpart
      rwa [hpart, List.mem_reverse]
  | cons b path ih =>
      rw [splitFrom] at hpart
      split at hpart
      · rcases List.mem_cons.mp hpart with rfl | hpart
        · rwa [List.mem_reverse]
        · exact ih (by simp) hpart
      · next hb => exact ih (by simp [h, Ne.symm hb]) hpart

theorem splitFrom_concat (current path : List UInt8) :
    splitFrom current (path ++ [slash]) = splitFrom current path ++ [[]] := by
  induction path generalizing current with
  | nil => rfl
  | cons b path ih =>
      rw [List.cons_append, splitFrom, splitFrom]
      split
      · rw [ih, List.cons_append]
      · exact ih _

/-! ## Components -/

theorem isName_of_mem_components (h : name ∈ components path) : IsName name := by
  rw [components, List.mem_filter, decide_eq_true_eq] at h
  exact ⟨h.2.1, h.2.2, notMem_of_mem_splitFrom (by simp) h.1⟩

theorem filter_of_isName (h : ∀ c ∈ cs, IsName c) :
    (cs.filter fun c => c ≠ [] ∧ c ≠ here) = cs := by
  rw [List.filter_eq_self]
  intro c hc
  rw [decide_eq_true_eq]
  exact ⟨(h c hc).ne_nil, (h c hc).ne_here⟩

/-- A slash at the end of a path adds no component. -/
theorem components_concat (path : List UInt8) : components (path ++ [slash]) = components path := by
  rw [components, split, splitFrom_concat, List.filter_append, List.filter_cons_of_neg (by simp),
    List.filter_nil, List.append_nil]
  rfl

theorem isAbsolute_ofComponents (cs : List (List UInt8)) : isAbsolute (ofComponents cs) = true := by
  cases cs with
  | nil => rfl
  | cons c cs => rfl

/-- A path that is made from names has these names as its components. -/
theorem components_ofComponents (h : ∀ c ∈ cs, IsName c) : components (ofComponents cs) = cs := by
  cases cs with
  | nil => decide
  | cons c cs =>
      have hsplit : split (ofComponents (c :: cs)) = [] :: c :: cs :=
        splitFrom_flatMap (fun d hd => (h d hd).notMem) []
      rw [components, hsplit, List.filter_cons_of_neg (by simp), filter_of_isName h]

/-- The components of a path from the root: its own, behind those of the directory that it is
relative to. -/
theorem components_absolute {dir absolute : List UInt8} (h : absolute? dir path = some absolute) :
    components absolute =
      if isAbsolute path then components path else components dir ++ components path := by
  rw [absolute?] at h
  split at h
  · cases h
  · split at h
    · next habsolute =>
        cases h
        rw [if_pos habsolute, components_ofComponents fun c => isName_of_mem_components]
    · next hrelative =>
        cases h
        rw [if_neg hrelative, components_ofComponents]
        intro c hc
        rcases List.mem_append.mp hc with hc | hc
        · exact isName_of_mem_components hc
        · exact isName_of_mem_components hc

end DiagServer.Path
