import DiagServer.Diagnostic

/-!
# Places counted from one and from zero

Lowering a coordinate confuses zero with one and nothing else. Raised again for people, it is the
coordinate that was reported, or one in place of zero, and the sum cannot wrap: what was lowered
from above zero has lost one, and zero is far from the largest number.

Above zero lowering keeps the order of numbers. Places are compared by line and then by column, so
their order is kept only if lowering tells both lines and columns apart. If a line is zero it does
not, and then a span may start before it ends and have a range that ends before it starts. This is
why the statements about order are for spans in which no coordinate is zero.
-/

namespace DiagServer

/-! ## Coordinates -/

theorem toNat_lower (n : UInt32) : (lower n).toNat = n.toNat - 1 := by
  rw [lower]
  split
  · next h => rw [h]; rfl
  · next h =>
      have : n.toNat ≠ 0 := fun h0 => h (UInt32.toNat_inj.mp h0)
      rw [UInt32.toNat_sub_of_le]
      · rfl
      · rw [UInt32.le_iff_toNat_le]
        exact Nat.pos_of_ne_zero this

theorem lower_eq (n : UInt32) : lower n = max n 1 - 1 := by
  have hmax : max n 1 = if n ≤ 1 then 1 else n := rfl
  rw [lower, hmax]
  grind

/-- A lowered coordinate can be raised. -/
theorem lower_lt_size (n : UInt32) : (lower n).toNat + 1 < UInt32.size := by
  have hn : n.toNat < UInt32.size := n.toNat_lt_size
  have hsize : 1 < UInt32.size := by decide
  rw [toNat_lower]
  omega

theorem toNat_raised (n : UInt32) : (lower n + 1).toNat = max 1 n.toNat := by
  have hsum : (lower n + 1).toNat = (lower n).toNat + 1 := by
    rw [UInt32.toNat_add]
    exact Nat.mod_eq_of_lt (lower_lt_size n)
  rw [hsum, toNat_lower]
  omega

variable {m n : UInt32}

theorem lower_inj (hm : 1 ≤ m) (hn : 1 ≤ n) : lower m = lower n ↔ m = n := by
  have hm : 1 ≤ m.toNat := UInt32.le_iff_toNat_le.mp hm
  have hn : 1 ≤ n.toNat := UInt32.le_iff_toNat_le.mp hn
  rw [← UInt32.toNat_inj, ← UInt32.toNat_inj, toNat_lower, toNat_lower]
  omega

/-- Only the smaller number has to be above zero. -/
theorem lower_lt_lower (hm : 1 ≤ m) : lower m < lower n ↔ m < n := by
  have hm : 1 ≤ m.toNat := UInt32.le_iff_toNat_le.mp hm
  rw [UInt32.lt_iff_toNat_lt, UInt32.lt_iff_toNat_lt, toNat_lower, toNat_lower]
  omega

/-! ## Places -/

theorem Position.compare_eq_then (p q : Position) :
    compare p q = (compare p.line q.line).then (compare p.character q.character) := rfl

theorem Position.compare_eq_lt {p q : Position} :
    compare p q = .lt ↔ p.line < q.line ∨ p.line = q.line ∧ p.character < q.character := by
  rw [compare_eq_then, Ordering.then_eq_lt, Std.compare_eq_lt, Std.compare_eq_iff_eq,
    Std.compare_eq_lt]

theorem Position.compare_self (p : Position) : compare p p = .eq := by
  rw [compare_eq_then, Ordering.then_eq_eq, Std.compare_eq_iff_eq, Std.compare_eq_iff_eq]
  exact ⟨rfl, rfl⟩

/-- A place counted from one. -/
@[ext]
structure Place where
  line : UInt32
  column : UInt32
deriving Repr, DecidableEq

namespace Place

/-- A place comes before another one if its line does, or its column in the same line. -/
def Before (p q : Place) : Prop := p.line < q.line ∨ p.line = q.line ∧ p.column < q.column

instance (p q : Place) : Decidable (p.Before q) :=
  inferInstanceAs (Decidable (p.line < q.line ∨ p.line = q.line ∧ p.column < q.column))

/-- Neither the line nor the column of a place is zero. -/
structure FromOne (p : Place) : Prop where
  line : 1 ≤ p.line
  column : 1 ≤ p.column

def toPosition (p : Place) : Position := ⟨lower p.line, lower p.column⟩

variable {p q : Place}

theorem toPosition_inj (hp : p.FromOne) (hq : q.FromOne) :
    p.toPosition = q.toPosition ↔ p = q := by
  rw [toPosition, toPosition, Position.mk.injEq, lower_inj hp.line hq.line,
    lower_inj hp.column hq.column]
  exact Place.ext_iff.symm

theorem compare_toPosition (hp : p.FromOne) (hq : q.FromOne) :
    compare p.toPosition q.toPosition = .lt ↔ p.Before q := by
  -- columns decide only between equal lines, and lowered lines are equal only where lines were
  rw [Position.compare_eq_lt, toPosition, toPosition, lower_lt_lower hp.line,
    lower_inj hp.line hq.line, lower_lt_lower hp.column, Before]

end Place

/-! ## Spans -/

namespace Span

/-- The place where a span starts. -/
def start (s : Span) : Place := ⟨s.startLine, s.startColumn⟩

/-- The place where a span ends. -/
def stop (s : Span) : Place := ⟨s.endLine, s.endColumn⟩

/-- What a front-end that counts from one reports. -/
structure FromOne (s : Span) : Prop where
  startLine : 1 ≤ s.startLine
  startColumn : 1 ≤ s.startColumn
  endLine : 1 ≤ s.endLine
  endColumn : 1 ≤ s.endColumn

/-- The two places of a span, each with what its range has for it. -/
def ends (s : Span) : List (Place × Position) :=
  [(s.start, s.toRange.start), (s.stop, s.toRange.stop)]

variable {s t : Span}

theorem toRange_eq (s : Span) : s.toRange = ⟨s.start.toPosition, s.stop.toPosition⟩ := rfl

theorem eq_iff_ends : s = t ↔ s.start = t.start ∧ s.stop = t.stop := by
  cases s
  cases t
  simp only [start, stop, Span.mk.injEq, Place.mk.injEq, and_assoc]

theorem FromOne.start (h : s.FromOne) : s.start.FromOne := ⟨h.startLine, h.startColumn⟩

theorem FromOne.stop (h : s.FromOne) : s.stop.FromOne := ⟨h.endLine, h.endColumn⟩

theorem FromOne.of_mem_ends (h : s.FromOne) {e : Place × Position} (he : e ∈ s.ends) :
    e.1.FromOne ∧ e.2 = e.1.toPosition := by
  rw [ends, List.mem_cons, List.mem_singleton] at he
  rcases he with rfl | rfl
  · exact ⟨h.start, rfl⟩
  · exact ⟨h.stop, rfl⟩

theorem toRange_inj (hs : s.FromOne) (ht : t.FromOne) : s.toRange = t.toRange ↔ s = t := by
  rw [toRange_eq, toRange_eq, Range.mk.injEq, Place.toPosition_inj hs.start ht.start,
    Place.toPosition_inj hs.stop ht.stop, eq_iff_ends]

theorem compare_ends (hs : s.FromOne) (ht : t.FromOne) {p q : Place × Position}
    (hp : p ∈ s.ends) (hq : q ∈ t.ends) : compare p.2 q.2 = .lt ↔ p.1.Before q.1 := by
  obtain ⟨hp, hp'⟩ := hs.of_mem_ends hp
  obtain ⟨hq, hq'⟩ := ht.of_mem_ends hq
  rw [hp', hq', Place.compare_toPosition hp hq]

/-- A range ends no earlier than it starts, if this is so of the span. -/
theorem isLE_toRange (hs : s.FromOne) (h : s.start = s.stop ∨ s.start.Before s.stop) :
    (compare s.toRange.start s.toRange.stop).isLE = true := by
  rw [Ordering.isLE_iff_eq_lt_or_eq_eq]
  rcases h with heq | hbefore
  · right
    rw [toRange_eq, heq]
    exact Position.compare_self _
  · left
    exact (Place.compare_toPosition hs.start hs.stop).mpr hbefore

end Span

/-! ## The line for people -/

theorem Diagnostic.display_ofSpan (s : Span) (message : String) (path : List UInt8) :
    (Diagnostic.ofSpan s message).display path =
      Text.Utf8.decodeLossy path ++ ":" ++ toString (max 1 s.startLine.toNat) ++ ":"
        ++ toString (max 1 s.startColumn.toNat) ++ ": error: " ++ message := by
  have hraised : ∀ n : UInt32, toString (lower n + 1) = toString (max 1 n.toNat) := by
    intro n
    rw [← toNat_raised]
    rfl
  simp only [display, ofSpan, Span.toRange, hraised]

/-- Whatever coordinates are reported, raising them for people does not wrap, and the line names the
place as it was reported, with one in place of zero. If no coordinate is zero, the range tells the
span, and the places of any two such spans come one before the other as the positions of their
ranges do; so a range does not end before it starts unless this is so of the span. -/
theorem Span.displayed_and_ordered (s : Span) (message : String) (path : List UInt8) :
    let d := Diagnostic.ofSpan s message
    d.range.start.line.toNat + 1 < UInt32.size ∧
    d.range.start.character.toNat + 1 < UInt32.size ∧
    d.display path =
      Text.Utf8.decodeLossy path ++ ":" ++ toString (max 1 s.startLine.toNat) ++ ":"
        ++ toString (max 1 s.startColumn.toNat) ++ ": error: " ++ message ∧
    (s.FromOne →
      (∀ t : Span, t.FromOne → s.toRange = t.toRange → s = t) ∧
      (∀ t : Span, t.FromOne → ∀ p ∈ s.ends, ∀ q ∈ t.ends,
        p.1.Before q.1 ↔ compare p.2 q.2 = .lt) ∧
      (s.start = s.stop ∨ s.start.Before s.stop →
        (compare s.toRange.start s.toRange.stop).isLE = true)) := by
  intro d
  refine ⟨lower_lt_size _, lower_lt_size _, Diagnostic.display_ofSpan s message path, fun hs => ?_⟩
  refine ⟨?_, ?_, isLE_toRange hs⟩
  · intro t ht h
    exact (toRange_inj hs ht).mp h
  · intro t ht p hp q hq
    exact (compare_ends hs ht hp hq).symm

/-- Two spans that reach the largest line and column and differ only in the column they start at. -/
theorem Span.displayed_and_ordered_largest :
    let s : Span := ⟨1, 4294967294, 4294967295, 4294967295⟩
    let t : Span := ⟨1, 4294967295, 4294967295, 4294967295⟩
    (s.FromOne ∧ t.FromOne ∧ s ≠ t ∧ s.start.Before t.start ∧ s.start.Before s.stop) ∧
    (Diagnostic.ofSpan t "m").display [0x61] = "a:1:4294967295: error: m" ∧
    s.toRange ≠ t.toRange ∧
    compare s.toRange.start t.toRange.start = .lt ∧
    (compare s.toRange.start s.toRange.stop).isLE = true := by
  intro s t
  have hs : s.FromOne := ⟨by decide, by decide, by decide, by decide⟩
  have ht : t.FromOne := ⟨by decide, by decide, by decide, by decide⟩
  have hne : s ≠ t := by decide
  have hbefore : s.start.Before t.start := by decide
  have hforward : s.start.Before s.stop := by decide
  obtain ⟨-, -, hdisplay, -⟩ := displayed_and_ordered t "m" [0x61]
  obtain ⟨-, -, -, hordered⟩ := displayed_and_ordered s "m" [0x61]
  obtain ⟨hinj, horder, hrange⟩ := hordered hs
  refine ⟨⟨hs, ht, hne, hbefore, hforward⟩, ?_, ?_, ?_, hrange (.inr hforward)⟩
  · rw [hdisplay]
    decide +kernel
  · intro heq
    exact hne (hinj t ht heq)
  · exact (horder t ht (s.start, s.toRange.start) (List.mem_cons_self ..)
      (t.start, t.toRange.start) (List.mem_cons_self ..)).mp hbefore

/-- With a zero for a line the order may turn around. -/
example : let s : Span := ⟨0, 5, 1, 2⟩
    s.start.Before s.stop ∧ compare s.toRange.start s.toRange.stop = .gt := by decide

end DiagServer
