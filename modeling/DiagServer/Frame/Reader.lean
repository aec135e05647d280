import DiagServer.Frame.Header
import DiagServer.Json.Reader

/-!
# Reading frames

A frame is a header block and a body of the stated length, which is the text of one JSON value.
Reading a stream gives the list of its outcomes: frames and bodies that are no JSON, and last
either a clean end, which is the end of the input between two frames, or the failure that put
the stream out of step.
-/

namespace DiagServer.Frame

/-- What comes of reading one frame. -/
inductive Outcome where
  | frame (value : Json)
  /-- A body that is no JSON. -/
  | notJson (reason : String)
  | broken (e : FrameError)
  | ended
deriving Repr

/-- Whether the next frame can be read after an outcome. -/
def Outcome.goesOn : Outcome → Bool
  | .frame _ => true
  | .notJson _ => true
  | .broken _ => false
  | .ended => false

/-- Read a body of `length` bytes. -/
def readBody (length : Nat) (bs : List UInt8) : Outcome × List UInt8 :=
  if maxBody < length then (.broken (.frameTooLarge length), bs)
  else
    let body := bs.take length
    if body.length < length then (.broken (.transport .earlyEnd), bs)
    else
      match Json.parse body with
      | .ok value => (.frame value, bs.drop length)
      | .error fault => (.notJson (fault.message body), bs.drop length)

/-- Read the next frame. The second part is what follows it, of interest only if the stream is
still in step. -/
def read (bs : List UInt8) : Outcome × List UInt8 :=
  if bs.isEmpty then (.ended, [])
  else
    match readHeader bs with
    | .error e => (.broken e, bs)
    | .ok (length, rest) => readBody length rest

/-- A body takes bytes from the front only. -/
theorem length_readBody_le (length : Nat) (bs : List UInt8) :
    (readBody length bs).2.length ≤ bs.length := by
  unfold readBody
  split
  · simp
  · simp only
    split
    · simp
    · split <;> simp

/-- A frame takes at least one byte if the stream is in step behind it. -/
theorem length_of_read {bs rest : List UInt8} {o : Outcome} (h : read bs = (o, rest))
    (ho : o.goesOn = true) : rest.length < bs.length := by
  unfold read at h
  split at h
  · simp only [Prod.mk.injEq] at h
    obtain ⟨rfl, -⟩ := h
    simp [Outcome.goesOn] at ho
  · cases hh : readHeader bs with
    | error e =>
        simp only [hh, Prod.mk.injEq] at h
        obtain ⟨rfl, -⟩ := h
        simp [Outcome.goesOn] at ho
    | ok r =>
        obtain ⟨n, left⟩ := r
        simp only [hh] at h
        have := length_readBody_le n left
        rw [h] at this
        exact Nat.lt_of_le_of_lt this (length_of_readLines hh)

/-- The outcomes of a stream after those before, which come newest first. -/
def outcomesFrom (seen : List Outcome) (bs : List UInt8) : List Outcome :=
  match _h : read bs with
  | (o, rest) =>
      if _ho : o.goesOn = true then outcomesFrom (o :: seen) rest else (o :: seen).reverse
termination_by bs.length
decreasing_by exact length_of_read _h _ho

/-- All outcomes of a stream. -/
def outcomes (bs : List UInt8) : List Outcome := outcomesFrom [] bs

end DiagServer.Frame
