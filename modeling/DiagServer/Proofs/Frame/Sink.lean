import DiagServer.Frame.Writer

/-!
# What a sink gets

A sink with room for some frames takes them all, and one with less room takes the frames before the
one that holds the first byte too many, and of this one as many bytes as still fit. Which frame that
is does not depend on the sink but on the frames and a number (`exists_cut`).
-/

namespace DiagServer.Frame

/-! ## Where parts are cut -/

section Cut

variable {α β : Type} {f : α → List β} {n : Nat} {xs whole later : List α} {x : α}

/-- Of things that together are written longer than `n`, one is written where `n` falls. -/
theorem exists_cut_flatMap (h : n < (xs.flatMap f).length) :
    ∃ whole x later, xs = whole ++ x :: later ∧ (whole.flatMap f).length ≤ n ∧
      n < ((whole ++ [x]).flatMap f).length := by
  induction xs generalizing n with
  | nil => exact absurd h (Nat.not_lt_zero n)
  | cons x rest ih =>
      by_cases hx : n < (f x).length
      · exact ⟨[], x, rest, rfl, Nat.zero_le n, by simpa using hx⟩
      · rw [List.flatMap_cons, List.length_append] at h
        obtain ⟨whole, y, later, rfl, hle, hlt⟩ := ih (n := n - (f x).length) (by omega)
        refine ⟨x :: whole, y, later, rfl, ?_, ?_⟩
        · rw [List.flatMap_cons, List.length_append]
          omega
        · rw [List.cons_append, List.flatMap_cons, List.length_append]
          omega

theorem take_flatMap (hle : (whole.flatMap f).length ≤ n)
    (hlt : n < ((whole ++ [x]).flatMap f).length) :
    ((whole ++ x :: later).flatMap f).take n =
      whole.flatMap f ++ (f x).take (n - (whole.flatMap f).length) := by
  rw [List.flatMap_append, List.flatMap_singleton, List.length_append] at hlt
  rw [List.flatMap_append, List.flatMap_cons, List.take_append, List.take_of_length_le hle,
    List.take_append_of_le_length (by omega)]

end Cut

/-! ## Bytes of frames -/

/-- The bytes of some frames. -/
def wire (frames : List Json) : List UInt8 := (frames.map encode).flatten

theorem wire_cons (v : Json) (frames : List Json) :
    wire (v :: frames) = encode v ++ wire frames := rfl

theorem wire_singleton (v : Json) : wire [v] = encode v := List.flatten_singleton

theorem wire_append (frames more : List Json) :
    wire (frames ++ more) = wire frames ++ wire more := by
  rw [wire, List.map_append, List.flatten_append]
  rfl

theorem length_wire_concat (frames : List Json) (v : Json) :
    (wire (frames ++ [v])).length = (wire frames).length + (encode v).length := by
  rw [wire_append, wire_singleton, List.length_append]

/-- Of frames that together have more than `n` bytes, one holds byte `n + 1`. -/
theorem exists_cut {n : Nat} {frames : List Json} (h : n < (wire frames).length) :
    ∃ whole v later, frames = whole ++ v :: later ∧ (wire whole).length ≤ n ∧
      n < (wire (whole ++ [v])).length :=
  exists_cut_flatMap (f := encode) h

theorem take_wire {n : Nat} {whole later : List Json} {v : Json} (hle : (wire whole).length ≤ n)
    (hlt : n < (wire (whole ++ [v])).length) :
    (wire (whole ++ v :: later)).take n =
      wire whole ++ (encode v).take (n - (wire whole).length) :=
  take_flatMap (f := encode) hle hlt

/-! ## Sinks -/

namespace Sink

theorem put_fits {room : Option Nat} {bytes : List UInt8} (h : ∀ n ∈ room, bytes.length ≤ n)
    (flushed : List (List UInt8)) :
    put ⟨room, flushed, []⟩ bytes =
      (true, ⟨room.map (· - bytes.length), bytes :: flushed, []⟩) := by
  cases room with
  | none => rfl
  | some n => exact if_pos (h n rfl)

theorem put_cut {n : Nat} {bytes : List UInt8} (h : n < bytes.length)
    (flushed : List (List UInt8)) :
    put ⟨some n, flushed, []⟩ bytes = (false, ⟨some 0, flushed, bytes.take n⟩) :=
  if_neg (Nat.not_le.mpr h)

theorem putAll_append (sink : Sink) (as bs : List Json) :
    sink.putAll (as ++ bs) =
      match sink.putAll as with
      | (true, sink) => sink.putAll bs
      | (false, sink) => (false, sink) := by
  induction as generalizing sink with
  | nil => rfl
  | cons v rest ih =>
      rw [List.cons_append, putAll, putAll]
      cases hput : sink.put (encode v) with
      | mk taken sink' =>
          cases taken with
          | true => exact ih sink'
          | false => rfl

theorem putAll_fits (room : Option Nat) {frames : List Json}
    (h : ∀ n ∈ room, (wire frames).length ≤ n) (flushed : List (List UInt8)) :
    putAll ⟨room, flushed, []⟩ frames =
      (true, ⟨room.map (· - (wire frames).length),
        (frames.map encode).reverse ++ flushed, []⟩) := by
  induction frames generalizing room flushed with
  | nil => simp [putAll, wire]
  | cons v rest ih =>
      simp only [wire_cons, List.length_append] at h ⊢
      have hfirst : ∀ n ∈ room, (encode v).length ≤ n := fun n hn =>
        Nat.le_trans (Nat.le_add_right _ _) (h n hn)
      have hrest : ∀ n ∈ room.map (· - (encode v).length), (wire rest).length ≤ n := by
        intro n hn
        obtain ⟨m, hm, rfl⟩ := Option.map_eq_some_iff.mp hn
        exact Nat.le_sub_of_add_le (by rw [Nat.add_comm]; exact h m hm)
      rw [putAll, put_fits hfirst]
      simp only [ih _ hrest, Option.map_map, List.map_cons, List.reverse_cons, List.append_assoc,
        List.singleton_append]
      congr
      funext n
      exact Nat.sub_sub n _ _

end Sink

end DiagServer.Frame
