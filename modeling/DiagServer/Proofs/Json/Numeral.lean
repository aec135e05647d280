import DiagServer.Decimal.Shortest
import DiagServer.Proofs.Json.Number

/-!
# What is written for a number is a numeral

A numeral is digits without a zero in front, then perhaps a point and digits, then perhaps an
exponent with its sign. Whatever a double is, its shortest text is one: the digits of a number other
than zero do not start with a zero, and zero itself is not scaled, so no zeros are put behind it.
-/

namespace DiagServer.Json

open Decimal

/-- Digits, at least one. -/
structure IsDigits (ds : List Char) : Prop where
  ne_nil : ds ≠ []
  isDigit : ∀ c ∈ ds, c.isDigit = true

/-- The digits of an integer: a zero stands in front only if it stands alone. -/
structure IsWhole (ds : List Char) : Prop extends IsDigits ds where
  eq_zero : ds.head? = some '0' → ds = ['0']

/-- The numerals without a sign. -/
inductive Numeral : List Char → Prop
  | whole {ds : List Char} (h : IsWhole ds) : Numeral ds
  | fraction {ds fs : List Char} (h : IsWhole ds) (hf : IsDigits fs) : Numeral (ds ++ '.' :: fs)
  | exponent {ds : List Char} (h : IsWhole ds) (e : Int) :
      Numeral (ds ++ 'e' :: signedExponent e)
  | scientific {ds fs : List Char} (h : IsWhole ds) (hf : IsDigits fs) (e : Int) :
      Numeral (ds ++ '.' :: (fs ++ 'e' :: signedExponent e))

/-! ## Digits -/

theorem isDigits_toDigits (n : Nat) : IsDigits (Nat.toDigits 10 n) where
  ne_nil := Nat.toDigits_ne_nil
  isDigit := isDigit_of_mem_toDigits

theorem head_toDigits {n : Nat} (h : n ≠ 0) : (Nat.toDigits 10 n).head? ≠ some '0' := by
  obtain ⟨d, ds, hds, hd⟩ := toDigits_of_pos (Nat.pos_of_ne_zero h)
  rw [hds, List.head?_cons]
  exact fun heq => hd (Option.some.inj heq)

theorem isWhole_toDigits (n : Nat) : IsWhole (Nat.toDigits 10 n) where
  toIsDigits := isDigits_toDigits n
  eq_zero := by
    intro hhead
    by_cases hn : n = 0
    · rw [hn]
      rfl
    · exact absurd hhead (head_toDigits hn)

theorem isWhole_singleton {d : Char} (h : d.isDigit = true) : IsWhole [d] where
  ne_nil := List.cons_ne_nil d []
  isDigit := by
    intro c hc
    rwa [List.mem_singleton.mp hc]
  eq_zero := by
    intro hhead
    rw [Option.some.inj hhead]

theorem IsDigits.append {ds fs : List Char} (hds : ∀ c ∈ ds, c.isDigit = true)
    (hfs : IsDigits fs) : IsDigits (ds ++ fs) where
  ne_nil := List.append_ne_nil_of_right_ne_nil ds hfs.ne_nil
  isDigit := by
    intro c hc
    rcases List.mem_append.mp hc with hc | hc
    · exact hds c hc
    · exact hfs.isDigit c hc

theorem isDigit_of_mem_zeros {n : Nat} : ∀ c ∈ List.replicate n '0', c.isDigit = true := by
  intro c hc
  rw [List.eq_of_mem_replicate hc]
  decide

theorem IsWhole.append_zeros {ds : List Char} (h : IsWhole ds) {n : Nat}
    (hzero : ds.head? ≠ some '0' ∨ n = 0) : IsWhole (ds ++ List.replicate n '0') := by
  rcases hzero with hhead | rfl
  · refine ⟨⟨List.append_ne_nil_of_left_ne_nil h.ne_nil _, fun c hc => ?_⟩, fun heq => ?_⟩
    · rcases List.mem_append.mp hc with hc | hc
      · exact h.isDigit c hc
      · exact isDigit_of_mem_zeros c hc
    · obtain ⟨d, rest, hds⟩ := List.exists_cons_of_ne_nil h.ne_nil
      rw [hds] at heq hhead
      exact absurd heq hhead
  · rwa [List.replicate_zero, List.append_nil]

theorem IsWhole.take {ds : List Char} (h : IsWhole ds) (hhead : ds.head? ≠ some '0') (n : Nat) :
    IsWhole (ds.take (n + 1)) := by
  cases ds with
  | nil => exact absurd rfl h.ne_nil
  | cons d ds =>
      rw [List.take_succ_cons]
      exact ⟨⟨List.cons_ne_nil _ _, fun c hc => h.isDigit c (List.mem_of_mem_take
        (i := n + 1) (by rwa [List.take_succ_cons]))⟩, fun heq => absurd heq hhead⟩

theorem IsDigits.drop {ds : List Char} (h : IsDigits ds) {n : Nat} (hn : n < ds.length) :
    IsDigits (ds.drop n) where
  ne_nil := by
    rw [ne_eq, List.drop_eq_nil_iff, Nat.not_le]
    exact hn
  isDigit := fun c hc => h.isDigit c (List.mem_of_mem_drop hc)

/-! ## Scaled numbers -/

/-- The text of a scaled number is a numeral, if zero is not scaled. -/
theorem numeral_text {s : Scaled} (hzero : s.digits ≠ 0 ∨ s.exponent = 0) : Numeral s.text := by
  have hwhole := isWhole_toDigits s.digits
  have hhead : s.digits ≠ 0 → (Nat.toDigits 10 s.digits).head? ≠ some '0' := head_toDigits
  rw [Scaled.text]
  -- nothing else matters about the digits, so they need not be those of a number from here on
  generalize Nat.toDigits 10 s.digits = ds at hwhole hhead
  have hlength : 0 < ds.length := List.length_pos_iff.mpr hwhole.ne_nil
  split
  · -- far from the point
    cases ds with
    | nil => exact absurd rfl hwhole.ne_nil
    | cons d rest =>
        have hd : d.isDigit = true := hwhole.isDigit d List.mem_cons_self
        cases rest with
        | nil => exact .exponent (isWhole_singleton hd) _
        | cons e rest =>
            have hrest : IsDigits (e :: rest) :=
              ⟨List.cons_ne_nil e rest, fun c hc => hwhole.isDigit c (List.mem_cons_of_mem d hc)⟩
            exact .scientific (isWhole_singleton hd) hrest _
  split
  · -- behind the point
    exact .fraction (isWhole_singleton (by decide)) (.append isDigit_of_mem_zeros hwhole.toIsDigits)
  split
  · -- before the point
    have hzeros : ds.head? ≠ some '0' ∨ s.exponent.toNat = 0 :=
      hzero.imp hhead fun h => by rw [h]; rfl
    exact .fraction (hwhole.append_zeros hzeros) (isWhole_singleton (by decide)).toIsDigits
  · -- around the point
    next hlead hexponent =>
      have hdigits : s.digits ≠ 0 := hzero.resolve_right (by omega)
      exact .fraction (hwhole.take (hhead hdigits) _) (hwhole.toIsDigits.drop (by omega))

/-! ## Shortest decimals -/

theorem compareQuarters_zero {n : Nat} (hn : n ≠ 0) (p q : Int) :
    Magnitude.compareQuarters 0 p n q = .lt := by
  have hpos : 0 < (overPower n 4 (-q)).1 := by
    rw [overPower]
    split
    · rw [Nat.shiftLeft_eq]
      exact Nat.mul_pos (Nat.pos_of_ne_zero hn) (Nat.pow_pos (by decide))
    · exact Nat.pos_of_ne_zero hn
  simp only [Magnitude.compareQuarters, Nat.zero_mul, Nat.compare_eq_lt]
  split
  · exact Nat.mul_pos hpos (Nat.pow_pos (by decide))
  · exact hpos

variable {x : Magnitude}

theorem ne_zero_of_readsBack (hx : x.significand ≠ 0) {d : Nat} {p : Int}
    (h : x.readsBack d p = true) : d ≠ 0 := by
  rintro rfl
  have hgap : x.lowerGap ≤ 2 := by
    rw [Magnitude.lowerGap]
    split <;> omega
  rw [Magnitude.readsBack, compareQuarters_zero (by omega)] at h
  simp at h

theorem ne_zero_of_onGrid? (hx : x.significand ≠ 0) {p : Int} {s : Scaled}
    (h : x.onGrid? p = some s) : s.digits ≠ 0 := by
  rw [Magnitude.onGrid?] at h
  split at h
  · next hbelow _ =>
      cases h
      exact ne_zero_of_readsBack hx hbelow
  · cases h
    exact Nat.succ_ne_zero _
  · cases h
  · next hbelow habove =>
      have hne := ne_zero_of_readsBack hx hbelow
      split at h
      · cases h
        exact hne
      · cases h
        exact Nat.succ_ne_zero _
      · cases h
        show (if _ then _ else _) ≠ 0
        split
        · exact hne
        · exact Nat.succ_ne_zero _

theorem shortest_digits (hx : x.significand ≠ 0) :
    x.shortest.digits ≠ 0 ∨ x.shortest.exponent = 0 := by
  rw [Magnitude.shortest]
  cases h : (List.range 24).findSome? fun (i : Nat) => x.onGrid? (x.coarsestGrid - i) with
  | none => exact .inr rfl
  | some s =>
      obtain ⟨i, -, hi⟩ := List.exists_of_findSome?_eq_some h
      exact .inl (ne_zero_of_onGrid? hx hi)

/-- The text of a double is a numeral, behind a sign or none. -/
theorem exists_numeral (x : Binary64) :
    ∃ text, Numeral text ∧ x.text = if x.negative then '-' :: text else text := by
  rw [Binary64.text]
  refine ⟨_, ?_, rfl⟩
  split
  · exact .fraction (isWhole_singleton (by decide)) (isWhole_singleton (by decide)).toIsDigits
  · next hx => exact numeral_text (shortest_digits hx)

end DiagServer.Json
