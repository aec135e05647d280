import DiagServer.Proofs.Frame.Grammar

/-!
# From one frame to the next

The reader keeps nothing from one frame to the next, and a frame is what it is whatever comes behind
it. `Reads` is the reader going from frame to frame, with the outcomes on the way and the bytes that
are left. More bytes at the end of the input are more bytes that are left (`Reads.append`); that is
`Accepts.append` for one frame, and the induction is on the frames. Since every stream is read up to
one outcome behind which reading cannot go on (`exists_reads`), this says what two streams give when
they are joined.
-/

namespace DiagServer.Frame

/-- The reader goes through `bs` with these outcomes, in step behind each of them, and `left` is
what it has still to read. -/
inductive Reads : List UInt8 → List Outcome → List UInt8 → Prop
  | nil (bs : List UInt8) : Reads bs [] bs
  | cons {bs rest left : List UInt8} {o : Outcome} {os : List Outcome} (h : read bs = (o, rest))
      (ho : o.goesOn = true) (hrest : Reads rest os left) : Reads bs (o :: os) left

variable {bs rest left : List UInt8} {o : Outcome} {os : List Outcome}

/-! ## One frame -/

theorem outcomes_of_goesOn (h : read bs = (o, rest)) (ho : o.goesOn = true) :
    outcomes bs = o :: outcomes rest := by
  obtain ⟨body, haccepts, rfl⟩ := accepts_of_read h ho
  exact outcomes_of_accepts haccepts

theorem outcomes_of_stops (h : read bs = (o, rest)) (ho : o.goesOn = false) :
    outcomes bs = [o] := by
  rw [outcomes, outcomesFrom_of_read h, if_neg (by simp [ho])]
  rfl

/-- A frame that is read is read alike in front of more bytes, which come behind what it left. -/
theorem read_append (h : read bs = (o, rest)) (ho : o.goesOn = true) (more : List UInt8) :
    read (bs ++ more) = (o, rest ++ more) := by
  obtain ⟨body, haccepts, rfl⟩ := accepts_of_read h ho
  exact read_of_accepts (haccepts.append more)

/-- What is left behind a frame is the end of the input, and the frame is what stands before it. -/
theorem exists_front (h : read bs = (o, rest)) (ho : o.goesOn = true) :
    ∃ front body, bs = front ++ rest ∧ Accepts front body [] ∧ o = decoded body := by
  obtain ⟨body, ⟨texts, last, n, hlines, hblock, hn, hlength, rfl⟩, rfl⟩ := accepts_of_read h ho
  exact ⟨_, body, rfl, ⟨texts, last, n, hlines, hblock, hn, hlength, (List.append_nil _).symm⟩, rfl⟩

theorem outcomes_nil : outcomes [] = [.ended] :=
  outcomes_of_stops (show read [] = (.ended, []) from rfl) rfl

/-! ## Many frames -/

theorem Reads.goesOn (h : Reads bs os left) : ∀ o ∈ os, o.goesOn = true := by
  induction h with
  | nil bs => exact List.forall_mem_nil _
  | cons h ho hrest ih => exact List.forall_mem_cons.mpr ⟨ho, ih⟩

theorem Reads.outcomes_eq (h : Reads bs os left) : outcomes bs = os ++ outcomes left := by
  induction h with
  | nil bs => rfl
  | cons h ho hrest ih => rw [outcomes_of_goesOn h ho, ih, List.cons_append]

theorem Reads.append (h : Reads bs os left) (more : List UInt8) :
    Reads (bs ++ more) os (left ++ more) := by
  induction h with
  | nil bs => exact .nil _
  | cons h ho hrest ih => exact .cons (read_append h ho more) ho ih

theorem Reads.exists_front (h : Reads bs os left) :
    ∃ front, bs = front ++ left ∧ Reads front os [] := by
  induction h with
  | nil bs => exact ⟨[], rfl, .nil []⟩
  | cons h ho hrest ih =>
      obtain ⟨first, body, rfl, haccepts, rfl⟩ := Frame.exists_front h ho
      obtain ⟨front, rfl, hfront⟩ := ih
      refine ⟨first ++ front, (List.append_assoc _ _ _).symm, ?_⟩
      exact .cons (read_of_accepts (haccepts.append front)) ho hfront

/-- Every stream is read until an outcome comes behind which there is no next frame. -/
theorem exists_reads (bs : List UInt8) :
    ∃ os left last, Reads bs os left ∧ (read left).1 = last ∧ last.goesOn = false ∧
      outcomes bs = os ++ [last] := by
  induction hn : bs.length using Nat.strongRecOn generalizing bs with
  | _ n ih =>
      obtain ⟨o, rest, hread⟩ : ∃ o rest, read bs = (o, rest) := ⟨_, _, rfl⟩
      cases ho : o.goesOn with
      | true =>
          have hlt : rest.length < n := hn ▸ length_of_read hread ho
          obtain ⟨os, left, last, hrest, hlast, hstops, houtcomes⟩ := ih _ hlt rest rfl
          refine ⟨o :: os, left, last, .cons hread ho hrest, hlast, hstops, ?_⟩
          rw [outcomes_of_goesOn hread ho, houtcomes, List.cons_append]
      | false => exact ⟨[], bs, o, .nil bs, by rw [hread], ho, outcomes_of_stops hread ho⟩

theorem reads_of_ended (h : outcomes bs = os ++ [.ended]) : Reads bs os [] := by
  obtain ⟨os', left, last, hreads, hlast, -, houtcomes⟩ := exists_reads bs
  obtain ⟨rfl, hended⟩ := List.append_inj' (h.symm.trans houtcomes) rfl
  cases hended
  rwa [read_eq_ended.mp hlast] at hreads

/-- If reading a stream comes to a clean end, then the stream with any bytes behind it is read as
the stream and then the bytes, each by itself. -/
theorem outcomes_append {p : List UInt8} {os : List Outcome} (h : outcomes p = os ++ [.ended])
    (q : List UInt8) : outcomes (p ++ q) = os ++ outcomes q := by
  have hp : Reads p os [] := reads_of_ended h
  have hjoined : Reads (p ++ q) os q := hp.append q
  exact hjoined.outcomes_eq

theorem read_notJson :
    ∃ reason, read (Text.Utf8.encode "Content-Length: 1\n\nx") = (.notJson reason, []) := by
  have hkind :
      ((read (Text.Utf8.encode "Content-Length: 1\n\nx")).1 matches .notJson _) = true := by
    decide +kernel
  have hrest : (read (Text.Utf8.encode "Content-Length: 1\n\nx")).2 = [] := by decide +kernel
  generalize read (Text.Utf8.encode "Content-Length: 1\n\nx") = result at hkind hrest
  obtain ⟨o, rest⟩ := result
  obtain rfl : rest = [] := hrest
  cases o with
  | notJson reason => exact ⟨reason, rfl⟩
  | _ => cases hkind

/-- A body that is no JSON, and behind it a block that is cut off. -/
theorem outcomes_append_notJson :
    let p := Text.Utf8.encode "Content-Length: 1\n\nx"
    let q := Text.Utf8.encode "Content-Length: 1\n"
    ∃ reason, outcomes p = [.notJson reason] ++ [.ended] ∧
      outcomes (p ++ q) = [.notJson reason] ++ outcomes q := by
  intro p q
  obtain ⟨reason, hread⟩ := read_notJson
  have hp : outcomes p = [.notJson reason] ++ [.ended] := by
    rw [outcomes_of_goesOn hread rfl, outcomes_nil]
    rfl
  exact ⟨reason, hp, outcomes_append hp q⟩

end DiagServer.Frame
