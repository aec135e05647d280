import DiagServer.Json.Basic

/-!
# What a member of an object is

An object keeps its members in the order of their names, the last of each name. Sorting is
stable, so the members of one name stay in the order in which they were written, and of these
the last one stays. So a member can be read off the list that an object was made from, and no
proof about a message has to look at the sorted list.
-/

namespace DiagServer.Json

variable {α : Type}

theorem lookup_cons_of_eq {name : String} {m : String × α} (h : m.1 = name)
    (rest : List (String × α)) : (m :: rest).lookup name = some m.2 := by
  subst h
  exact List.lookup_cons_self

theorem lookup_cons_of_ne {name : String} {m : String × α} (h : m.1 ≠ name)
    (rest : List (String × α)) : (m :: rest).lookup name = rest.lookup name := by
  rw [show m = (m.1, m.2) from rfl, List.lookup_cons, beq_eq_false_iff_ne.mpr (Ne.symm h)]

/-- The members of one name. -/
def named (name : String) (ms : List (String × α)) : List (String × α) :=
  ms.filter fun m => decide (m.1 = name)

theorem lookup_eq_head_named (name : String) (ms : List (String × α)) :
    ms.lookup name = (named name ms).head?.map (·.2) := by
  induction ms with
  | nil => rfl
  | cons m rest ih =>
      by_cases h : m.1 = name
      · rw [named, List.filter_cons_of_pos (by simpa using h), lookup_cons_of_eq h]
        rfl
      · rw [named, List.filter_cons_of_neg (by simpa using h), lookup_cons_of_ne h]
        exact ih

theorem lookup_reverse (name : String) (ms : List (String × α)) :
    ms.reverse.lookup name = (named name ms).getLast?.map (·.2) := by
  rw [lookup_eq_head_named, named, named, List.filter_reverse, List.head?_reverse]

/-- The order of members by their names. -/
abbrev nameLE (a b : String × α) : Bool := decide (a.1 ≤ b.1)

theorem nameLE_trans (a b c : String × α) (hab : nameLE a b = true) (hbc : nameLE b c = true) :
    nameLE a c = true := by
  simp only [nameLE, decide_eq_true_eq] at *
  exact String.le_trans hab hbc

theorem nameLE_total (a b : String × α) : (nameLE a b || nameLE b a) = true := by
  simp only [nameLE, Bool.or_eq_true, decide_eq_true_eq]
  exact String.le_total a.1 b.1

theorem named_mergeSort (name : String) (ms : List (String × α)) :
    named name (ms.mergeSort nameLE) = named name ms := by
  have hsorted : (named name ms).Pairwise fun a b => nameLE a b = true := by
    rw [List.pairwise_iff_forall_sublist]
    intro a b hab
    have ha := hab.subset (a := a) (by simp)
    have hb := hab.subset (a := b) (by simp)
    simp only [named, List.mem_filter, decide_eq_true_eq] at ha hb
    simp [nameLE, ha.2, hb.2]
  have hsub : (named name ms).Sublist (ms.mergeSort nameLE) :=
    List.sublist_mergeSort nameLE_trans nameLE_total hsorted List.filter_sublist
  have hsub' : (named name ms).Sublist (named name (ms.mergeSort nameLE)) := by
    have := hsub.filter fun m => decide (m.1 = name)
    simpa only [named, List.filter_filter, Bool.and_self] using this
  have hlength : (named name ms).length = (named name (ms.mergeSort nameLE)).length :=
    ((List.mergeSort_perm ms nameLE).filter _).length_eq.symm
  exact (hsub'.eq_of_length hlength).symm

theorem head_keepLast (m : String × α) (rest : List (String × α)) :
    (keepLast m rest).head?.map (·.1) = some m.1 := by
  cases rest with
  | nil => rfl
  | cons n rest =>
      rw [keepLast]
      split
      · next h => simp [h]
      · rfl

theorem lookup_keepLast (name : String) (m : String × α) (rest : List (String × α)) :
    (keepLast m rest).lookup name =
      if m.1 = name ∧ rest.head?.map (·.1) ≠ some name then some m.2 else rest.lookup name := by
  cases rest with
  | nil =>
      by_cases hm : m.1 = name
      · rw [if_pos ⟨hm, by simp⟩, keepLast, lookup_cons_of_eq hm]
      · rw [if_neg (fun h => hm h.1), keepLast, lookup_cons_of_ne hm]
  | cons n rest =>
      simp only [keepLast, List.head?_cons, Option.map_some, ne_eq, Option.some.injEq]
      by_cases hn : m.1 = n.1
      · rw [if_pos hn, if_neg (fun h => h.2 (hn.symm.trans h.1))]
      · rw [if_neg hn]
        by_cases hm : m.1 = name
        · rw [lookup_cons_of_eq hm, if_pos ⟨hm, fun h => hn (hm.trans h.symm)⟩]
        · rw [lookup_cons_of_ne hm, if_neg (fun h => hm h.1)]

/-- Of sorted members the last of a name stays. -/
theorem lookup_foldr_keepLast (name : String) {ms : List (String × α)}
    (h : ms.Pairwise fun a b => nameLE a b = true) :
    (ms.foldr keepLast []).lookup name = ms.reverse.lookup name := by
  induction ms with
  | nil => rfl
  | cons m rest ih =>
      rw [List.pairwise_cons] at h
      rw [List.foldr_cons, lookup_keepLast, ih h.2, List.reverse_cons, List.lookup_append]
      by_cases hm : m.1 = name
      · rw [lookup_cons_of_eq hm]
        cases rest with
        | nil => rw [if_pos ⟨hm, by simp⟩]; rfl
        | cons n more =>
            rw [List.foldr_cons, head_keepLast]
            by_cases hn : n.1 = name
            · -- A later member has the name too, so this one does not count.
              rw [if_neg (fun hc => hc.2 (congrArg some hn))]
              have hsome : ((n :: more).reverse.lookup name).isSome = true := by
                rw [List.lookup_isSome_iff]
                exact ⟨n, by simp, by simp [hn]⟩
              obtain ⟨v, hv⟩ := Option.isSome_iff_exists.mp hsome
              rw [hv, Option.some_or]
            · -- The next member is greater, and so are all members behind it.
              rw [if_pos ⟨hm, fun hc => hn (Option.some.inj hc)⟩]
              have hnone : (n :: more).reverse.lookup name = none := by
                rw [List.lookup_eq_none_iff]
                intro p hp
                rw [List.mem_reverse] at hp
                have hmn : m.1 ≤ n.1 := by simpa [nameLE] using h.1 n (by simp)
                have hnp : n.1 ≤ p.1 := by
                  rcases List.mem_cons.mp hp with rfl | hp
                  · exact String.le_refl _
                  · simpa [nameLE] using (List.pairwise_cons.mp h.2).1 p hp
                have hne : name ≠ p.1 := fun he =>
                  hn (String.le_antisymm (he ▸ hnp) (hm ▸ hmn))
                simpa using hne
              rw [hnone, Option.none_or]
      · rw [if_neg (fun hc => hm hc.1), lookup_cons_of_ne hm, List.lookup_nil, Option.or_none]

/-- A member of an object is the last of its name among those that the object was made from. -/
theorem member?_object (name : String) (ms : List (String × Json)) :
    (object ms).member? name = ms.reverse.lookup name := by
  show (sortMembers ms).lookup name = _
  rw [sortMembers, lookup_foldr_keepLast name
    (List.pairwise_mergeSort nameLE_trans nameLE_total ms), lookup_reverse, lookup_reverse,
    named_mergeSort]

/-! ## Members of different names -/

theorem foldr_keepLast_of_nodup {ms : List (String × α)} (h : (ms.map (·.1)).Nodup) :
    ms.foldr keepLast [] = ms := by
  induction ms with
  | nil => rfl
  | cons m rest ih =>
      rw [List.map_cons, List.nodup_cons] at h
      rw [List.foldr_cons, ih h.2]
      cases rest with
      | nil => rfl
      | cons n more => rw [keepLast, if_neg fun he => h.1 (by simp [he])]

/-- Sorting loses no member if all names differ. -/
theorem sortMembers_perm {ms : List (String × α)} (h : (ms.map (·.1)).Nodup) :
    (sortMembers ms).Perm ms := by
  have hperm := List.mergeSort_perm ms nameLE
  have hnodup : ((ms.mergeSort nameLE).map (·.1)).Nodup := (hperm.map _).nodup_iff.mpr h
  show ((ms.mergeSort nameLE).foldr keepLast []).Perm ms
  rw [foldr_keepLast_of_nodup hnodup]
  exact hperm

/-- Sorted members of different names stay as they are. -/
theorem object_of_sorted {ms : List (String × Json)}
    (hsorted : ms.Pairwise fun a b => nameLE a b = true) (h : (ms.map (·.1)).Nodup) :
    object ms = .obj ms := by
  show obj ((ms.mergeSort nameLE).foldr keepLast []) = obj ms
  rw [List.mergeSort_of_pairwise hsorted, foldr_keepLast_of_nodup h]

theorem object_sortMembers {ms : List (String × Json)} (h : (ms.map (·.1)).Nodup) :
    object (sortMembers ms) = object ms := by
  have hnodup : ((ms.mergeSort nameLE).map (·.1)).Nodup :=
    ((List.mergeSort_perm ms nameLE).map _).nodup_iff.mpr h
  have hsort : sortMembers ms = ms.mergeSort nameLE := foldr_keepLast_of_nodup hnodup
  have hsorted := List.pairwise_mergeSort nameLE_trans nameLE_total ms
  rw [hsort, object_of_sorted hsorted hnodup, object, hsort]

end DiagServer.Json
