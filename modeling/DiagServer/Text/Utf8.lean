/-!
# UTF-8, strictly and with replacement

Bytes are decoded one step at a time. A step on a non-empty input takes either a whole
character or the longest run of bytes that begins a character but does not finish it. Such a
run is *broken* when another byte, or none that may lead a character, stands in its way, and
*cut* when the input ends inside it. The strict reading refuses both, the lossy one puts one
U+FFFD in the place of each run, so both are folds over the same steps and agree wherever
nothing is amiss.
-/

namespace DiagServer.Text.Utf8

/-- What the front of a byte string holds. -/
inductive Step where
  | done
  | char (c : Char) (rest : List UInt8)
  | broken (rest : List UInt8)
  | cut
deriving Repr, DecidableEq

/-- The number of bytes that follow a lead byte, `none` for a byte that leads nothing. -/
def tailLength (lead : UInt8) : Option Nat :=
  if lead < 0x80 then some 0
  else if lead < 0xC2 then none
  else if lead < 0xE0 then some 1
  else if lead < 0xF0 then some 2
  else if lead < 0xF5 then some 3
  else none

/-- The bytes allowed right after a lead byte. The four narrow rows keep out overlong forms,
surrogates and values above U+10FFFF. -/
def secondByteRange (lead : UInt8) : UInt8 × UInt8 :=
  if lead = 0xE0 then (0xA0, 0xBF)
  else if lead = 0xED then (0x80, 0x9F)
  else if lead = 0xF0 then (0x90, 0xBF)
  else if lead = 0xF4 then (0x80, 0x8F)
  else (0x80, 0xBF)

/-- The bits of the scalar value that a lead byte carries. -/
def leadBits (lead : UInt8) : Nat :=
  if lead < 0x80 then lead.toNat
  else if lead < 0xE0 then lead.toNat % 32
  else if lead < 0xF0 then lead.toNat % 16
  else lead.toNat % 8

/-- Take `n` more bytes of a character, the first of them between `lo` and `hi`. The bytes
before a misfit stay consumed and the misfit does not. -/
def takeTail : Nat → UInt8 → UInt8 → Nat → List UInt8 → Step
  | 0, _, _, value, bs => .char (Char.ofNat value) bs
  | _ + 1, _, _, _, [] => .cut
  | n + 1, lo, hi, value, b :: bs =>
      if lo ≤ b ∧ b ≤ hi then takeTail n 0x80 0xBF (value * 64 + b.toNat % 64) bs
      else .broken (b :: bs)

/-- Look at the front of a byte string. -/
def step : List UInt8 → Step
  | [] => .done
  | lead :: bs =>
      match tailLength lead with
      | none => .broken bs
      | some n =>
          takeTail n (secondByteRange lead).1 (secondByteRange lead).2 (leadBits lead) bs

/-- A tail takes bytes from the front only. -/
theorem takeTail_rest_length (n : Nat) (lo hi : UInt8) (value : Nat) (bs : List UInt8) :
    match takeTail n lo hi value bs with
    | .done => True
    | .char _ rest => rest.length ≤ bs.length
    | .broken rest => rest.length ≤ bs.length
    | .cut => True := by
  induction n generalizing lo hi value bs with
  | zero => simp [takeTail]
  | succ n ih =>
      cases bs with
      | nil => simp [takeTail]
      | cons b bs =>
          by_cases h : lo ≤ b ∧ b ≤ hi
          · simp only [takeTail, h, and_self, ↓reduceIte]
            have := ih 0x80 0xBF (value * 64 + b.toNat % 64) bs
            split at this <;> simp_all <;> omega
          · simp [takeTail, h]

/-- Whatever a step takes, it takes at least one byte. -/
theorem length_of_step {bs rest : List UInt8}
    (h : (∃ c, step bs = .char c rest) ∨ step bs = .broken rest) : rest.length < bs.length := by
  cases bs with
  | nil => simp [step] at h
  | cons lead bs =>
      cases ht : tailLength lead with
      | none => simp_all [step]
      | some n =>
          have := takeTail_rest_length n (secondByteRange lead).1 (secondByteRange lead).2
            (leadBits lead) bs
          simp only [step, ht] at h
          rcases h with ⟨c, h⟩ | h <;> rw [h] at this <;> simp only [List.length_cons] <;> omega

/-- The characters of `bs` after those read before, newest first; `none` at a broken run. -/
def decodeFrom? (seen : List Char) (bs : List UInt8) : Option (List Char) :=
  match _h : step bs with
  | .done => some seen.reverse
  | .char c rest => decodeFrom? (c :: seen) rest
  | .broken _ => none
  | .cut => none
termination_by bs.length
decreasing_by exact length_of_step (.inl ⟨_, _h⟩)

/-- The characters of a byte string, `none` if a run of it is broken. -/
def decodeChars? (bs : List UInt8) : Option (List Char) := decodeFrom? [] bs

/-- The text of a byte string, `none` if a run of it is broken. -/
def decode? (bs : List UInt8) : Option String := (decodeChars? bs).map String.ofList

/-- The characters of `bs` after those read before, newest first, with U+FFFD for each broken
run. -/
def decodeLossyFrom (seen : List Char) (bs : List UInt8) : List Char :=
  match _h : step bs with
  | .done => seen.reverse
  | .char c rest => decodeLossyFrom (c :: seen) rest
  | .broken rest => decodeLossyFrom ('\uFFFD' :: seen) rest
  | .cut => ('\uFFFD' :: seen).reverse
termination_by bs.length
decreasing_by
  · exact length_of_step (.inl ⟨_, _h⟩)
  · exact length_of_step (.inr _h)

/-- The characters of a byte string, with U+FFFD for each broken run. -/
def decodeLossyChars (bs : List UInt8) : List Char := decodeLossyFrom [] bs

/-- The text of a byte string, with U+FFFD for each broken run. -/
def decodeLossy (bs : List UInt8) : String := String.ofList (decodeLossyChars bs)

/-- The first run that is broken or cut: the number of bytes before it, and its length if it
is broken. -/
structure Flaw where
  index : Nat
  length : Option Nat
deriving Repr, DecidableEq

/-- The first flaw of a byte string, of which `before` bytes were read already. -/
def firstFlawFrom? (before : Nat) (bs : List UInt8) : Option Flaw :=
  match _h : step bs with
  | .done => none
  | .char c rest => firstFlawFrom? (before + c.utf8Size) rest
  | .broken rest => some ⟨before, some (bs.length - rest.length)⟩
  | .cut => some ⟨before, none⟩
termination_by bs.length
decreasing_by exact length_of_step (.inl ⟨_, _h⟩)

/-- The first flaw of a byte string, `none` if it is UTF-8. -/
def firstFlaw? (bs : List UInt8) : Option Flaw := firstFlawFrom? 0 bs

/-- The bytes of a list of characters. -/
def encodeChars (cs : List Char) : List UInt8 := cs.flatMap String.utf8EncodeChar

/-- The bytes of a text. -/
def encode (s : String) : List UInt8 := encodeChars s.toList

end DiagServer.Text.Utf8
