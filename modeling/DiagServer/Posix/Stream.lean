import DiagServer.Posix.Number
import DiagServer.Posix.System

/-!
# What utilities read and write

Utilities treat bytes as characters, so here each character stands for one byte and is below
U+0100. A stream is a text, and a device may go on behind it with one character for ever.
-/

namespace DiagServer.Posix

/-- The text whose characters stand for these bytes. -/
def ofBytes (bs : List UInt8) : List Char := bs.map fun b => Char.ofNat b.toNat

/-- The bytes that the characters of a text stand for. -/
def toBytes (cs : List Char) : List UInt8 := cs.map fun c => UInt8.ofNat c.toNat

/-- A text as utilities see it. -/
def ofString (s : String) : List Char := ofBytes (Text.Utf8.encode s)

/-- What is read from a file, a device or another utility. -/
structure Stream where
  text : List Char := []
  /-- What the stream goes on with for ever behind its text. -/
  forever : Option Char := none
  /-- Whether what was read too much can be given back. -/
  seekable : Bool := false
deriving Repr, DecidableEq

namespace Stream

/-- At most so many characters from the front. -/
def take (s : Stream) (n : Nat) : List Char :=
  match s.forever with
  | none => s.text.take n
  | some c => s.text.take n ++ List.replicate (n - s.text.length) c

/-- The stream behind so many characters. -/
def drop (s : Stream) (n : Nat) : Stream := { s with text := s.text.drop n }

/-- One stream behind another. -/
def append (s t : Stream) : Stream :=
  match s.forever with
  | none => { text := s.text ++ t.text, forever := t.forever }
  | some _ => s

/-- A stream of one character for another. -/
def map (f : Char → Char) (s : Stream) : Stream :=
  { text := s.text.map f, forever := s.forever.map f }

end Stream

/-- The stream of a file or a device. -/
def openInput (fs : FileSystem) (path : List Char) : Except FileError Stream := do
  let path := toBytes path
  let bytes ← fs.read path
  let forever := if (fs.resolve path).toOption == some zeroDevice then some '\x00' else none
  return { text := ofBytes bytes, forever, seekable := true }

end DiagServer.Posix
