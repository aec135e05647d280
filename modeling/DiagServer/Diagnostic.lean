import DiagServer.Position
import DiagServer.Text.Utf8

/-!
# Diagnostics

A diagnostic is a range and a message. The diagnostics of one parse are gathered in a batch, in
the order in which the front-end reported them.
-/

namespace DiagServer

/-- One error of a document. -/
structure Diagnostic where
  range : Range
  message : String
deriving Repr, DecidableEq

/-- The diagnostic for a span that a front-end reported. -/
def Diagnostic.ofSpan (span : Span) (message : String) : Diagnostic := ⟨span.toRange, message⟩

/-- One line for people: path, line and column counted from one, and message. Bytes of the path
that are not UTF-8 are replaced. The coordinates are raised as 32-bit numbers, so the largest one
would come out as zero. -/
def Diagnostic.display (path : List UInt8) (d : Diagnostic) : String :=
  Text.Utf8.decodeLossy path ++ ":" ++ toString (d.range.start.line + 1) ++ ":"
    ++ toString (d.range.start.character + 1) ++ ": error: " ++ d.message

/-- The diagnostics of one parse, in the order of their reports. -/
structure Batch where
  items : Array Diagnostic := #[]
deriving Repr, DecidableEq

namespace Batch

/-- The batch before the first report. -/
def empty : Batch := {}

/-- Add the next diagnostic. -/
def push (b : Batch) (d : Diagnostic) : Batch := ⟨b.items.push d⟩

/-- The number of diagnostics. -/
def size (b : Batch) : Nat := b.items.size

/-- Whether nothing was reported. -/
def isEmpty (b : Batch) : Bool := b.items.isEmpty

/-- The diagnostics in the order of their reports. -/
def toList (b : Batch) : List Diagnostic := b.items.toList

end Batch

end DiagServer
