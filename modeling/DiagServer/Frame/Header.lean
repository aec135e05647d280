import DiagServer.Frame.Error
import DiagServer.Text.Blank

/-!
# The header block of a frame

A block is a run of lines that ends with the first blank one. A line is a name and a value with
a colon between them, blanks around either not counting; only the length of the body matters,
and of several lengths the last. The block has a budget of bytes, which every line lowers, and a
line is read only as far as the budget goes.
-/

namespace DiagServer.Frame

/-- The line at the front with its line feed, cut off after `budget` bytes. -/
def takeLine : Nat → List UInt8 → List UInt8
  | 0, _ => []
  | _ + 1, [] => []
  | budget + 1, b :: bs => if b = 0x0A then [b] else b :: takeLine budget bs

/-- The name of the header that gives the length of the body, in small letters. -/
def contentLengthName : String := "content-length"

/-- The largest length that can be stated. -/
def maxLength : Nat := UInt64.size - 1

/-- The number that a value states: digits, with a plus sign before them or not. -/
def parseLength? (value : List Char) : Option Nat :=
  let digits : List Char :=
    match value with
    | '+' :: rest => rest
    | value => value
  if digits.isEmpty || !digits.all Char.isDigit then none
  else
    let n := digits.foldl (fun n c => n * 10 + (c.toNat - 0x30)) 0
    if n ≤ maxLength then some n else none

/-- The length that a header line states, `none` if the line has another name or no colon. The
line comes without the blanks around it. -/
def contentLength (line : List Char) : Except FrameError (Option Nat) :=
  match line.dropWhile (· ≠ ':') with
  | [] => .ok none
  | _ :: value =>
      let name := (Text.trim (line.takeWhile (· ≠ ':'))).map Char.toLower
      if String.ofList name ≠ contentLengthName then .ok none
      else
        let value := Text.trim value
        match parseLength? value with
        | some n => .ok (some n)
        | none => .error (.invalidContentLength (String.ofList value))

/-- What one line means for the block. -/
inductive Line where
  | blank
  | length (n : Nat)
  | other
deriving Repr, DecidableEq

/-- The meaning of a line without the blanks around it. -/
def Line.ofText (line : List Char) : Except FrameError Line :=
  if line.isEmpty then .ok .blank
  else
    match contentLength line with
    | .error e => .error e
    | .ok (some n) => .ok (.length n)
    | .ok none => .ok .other

/-- The meaning of a whole line, which must be UTF-8. -/
def Line.ofBytes (line : List UInt8) : Except FrameError Line :=
  Line.ofText (Text.trim (Text.Utf8.decodeLossyChars line))

/-- Whether a line was read up to its line feed. -/
def isWhole (line : List UInt8) : Bool := line.getLast? = some 0x0A

/-- A line has no more bytes than its budget. -/
theorem length_takeLine_le (budget : Nat) (bs : List UInt8) :
    (takeLine budget bs).length ≤ budget := by
  induction budget generalizing bs with
  | zero => simp [takeLine]
  | succ budget ih =>
      cases bs with
      | nil => simp [takeLine]
      | cons b bs =>
          by_cases h : b = 0x0A
          · simp [takeLine, h]
          · simpa [takeLine, h] using ih bs

/-- A line is a prefix of the input. -/
theorem isPrefix_takeLine (budget : Nat) (bs : List UInt8) : takeLine budget bs <+: bs := by
  induction budget generalizing bs with
  | zero => simp [takeLine]
  | succ budget ih =>
      cases bs with
      | nil => simp [takeLine]
      | cons b bs =>
          by_cases h : b = 0x0A
          · simp [takeLine, h]
          · simpa [takeLine, h] using ih bs

/-- Read the lines of a block within a budget, `length` being the length stated so far. The
result is the stated length and what follows the block. -/
def readLines (budget : Nat) (length : Option Nat) (bs : List UInt8) :
    Except FrameError (Nat × List UInt8) :=
  match budget with
  | 0 => .error .headerTooLarge
  | budget + 1 =>
      match takeLine (budget + 1) bs with
      | [] => .error .truncatedHeaders
      | b :: more =>
          let line := b :: more
          let rest := bs.drop line.length
          match Text.Utf8.firstFlaw? line with
          | some flaw => .error (.transport (.notUtf8 flaw))
          | none =>
              if !isWhole line then
                .error (if line.length = budget + 1 then .headerTooLarge else .truncatedHeaders)
              else
                match Line.ofBytes line with
                | .error e => .error e
                | .ok .blank =>
                    match length with
                    | some n => .ok (n, rest)
                    | none => .error .missingContentLength
                | .ok (.length n) => readLines (budget - more.length) (some n) rest
                | .ok .other => readLines (budget - more.length) length rest
termination_by budget

/-- Read a header block. -/
def readHeader (bs : List UInt8) : Except FrameError (Nat × List UInt8) :=
  readLines maxHeader none bs

/-- A block takes at least one byte. -/
theorem length_of_readLines {budget : Nat} {length : Option Nat} {bs rest : List UInt8} {n : Nat}
    (h : readLines budget length bs = .ok (n, rest)) : rest.length < bs.length := by
  induction budget using Nat.strongRecOn generalizing length bs with
  | _ budget ih =>
      rw [readLines.eq_def] at h
      cases budget with
      | zero => simp at h
      | succ budget =>
          simp only at h
          cases hl : takeLine (budget + 1) bs with
          | nil => simp [hl] at h
          | cons b more =>
              have hp := (isPrefix_takeLine (budget + 1) bs).length_le
              rw [hl, List.length_cons] at hp
              have hrest : (bs.drop (b :: more).length).length < bs.length := by
                simp only [List.length_drop, List.length_cons]
                omega
              simp only [hl] at h
              split at h
              · simp at h
              · split at h
                · simp at h
                · split at h
                  · simp at h
                  · split at h
                    · simp only [Except.ok.injEq, Prod.mk.injEq] at h
                      obtain ⟨-, rfl⟩ := h
                      exact hrest
                    · simp at h
                  · exact Nat.lt_trans (ih _ (by omega) h) hrest
                  · exact Nat.lt_trans (ih _ (by omega) h) hrest

end DiagServer.Frame
