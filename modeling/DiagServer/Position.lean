/-!
# Places in a source text

Front-ends count lines and columns from one and report *spans*; editors count from zero and
show *ranges*. A span becomes a range by lowering every coordinate by one, and a coordinate of
zero, which no front-end should report, stays zero.
-/

namespace DiagServer

/-- A place counted from zero. -/
structure Position where
  line : UInt32
  character : UInt32
deriving Repr, DecidableEq

/-- Places are ordered by line, and within a line by character. -/
instance : Ord Position where
  compare p q := (compare p.line q.line).then (compare p.character q.character)

/-- The stretch between two places. -/
structure Range where
  start : Position
  stop : Position
deriving Repr, DecidableEq

/-- A stretch of text as a front-end reports it, counted from one. -/
structure Span where
  startLine : UInt32
  startColumn : UInt32
  endLine : UInt32
  endColumn : UInt32
deriving Repr, DecidableEq

/-- One less, but not below zero. -/
def lower (n : UInt32) : UInt32 := if n = 0 then 0 else n - 1

/-- The range that a span covers. -/
def Span.toRange (s : Span) : Range :=
  ⟨⟨lower s.startLine, lower s.startColumn⟩, ⟨lower s.endLine, lower s.endColumn⟩⟩

end DiagServer
