import DiagServer.Frame.Error
import DiagServer.Json.Printer

/-!
# Writing frames

A sink takes bytes as long as it has room and hands them on at every flush, which is at the end
of every frame. A frame that does not fit leaves as many of its bytes behind as there was room
for and is never flushed.
-/

namespace DiagServer.Frame

/-- The text of a name of a header and its value that gives the length of a body. -/
def headerText (length : Nat) : List Char :=
  "Content-Length: ".toList ++ Nat.toDigits 10 length ++ ['\r', '\n', '\r', '\n']

/-- The bytes of the frame with this value. -/
def encode (value : Json) : List UInt8 :=
  let body := value.encode
  Text.Utf8.encodeChars (headerText body.length) ++ body

/-- Where frames are written to. -/
structure Sink where
  /-- The number of bytes that are still taken; all are if it is `none`. -/
  room : Option Nat := none
  /-- The frames that were flushed, newest first. -/
  flushed : List (List UInt8) := []
  /-- The bytes taken since the last flush. -/
  pending : List UInt8 := []
deriving Repr, DecidableEq

namespace Sink

/-- A sink that takes at most so many bytes, or any number. -/
def withRoom (room : Option Nat) : Sink := { room }

/-- The frames that were flushed, in order. -/
def chunks (s : Sink) : List (List UInt8) := s.flushed.reverse

/-- The sink after a failed write of these bytes. -/
def cutOff (s : Sink) (room : Nat) (bytes : List UInt8) : Sink :=
  { s with room := some 0, pending := s.pending ++ bytes.take room }

/-- Write and flush the bytes of one frame. The first part tells whether they all fitted. -/
def put (s : Sink) (bytes : List UInt8) : Bool × Sink :=
  match s.room with
  | none => (true, ⟨none, (s.pending ++ bytes) :: s.flushed, []⟩)
  | some room =>
      if bytes.length ≤ room then
        (true, ⟨some (room - bytes.length), (s.pending ++ bytes) :: s.flushed, []⟩)
      else (false, s.cutOff room bytes)

/-- Write frames up to the first that does not fit. -/
def putAll (s : Sink) : List Json → Bool × Sink
  | [] => (true, s)
  | v :: rest =>
      match s.put (encode v) with
      | (true, s) => putAll s rest
      | (false, s) => (false, s)

end Sink

end DiagServer.Frame
