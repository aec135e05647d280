import DiagServer.Position
import DiagServer.Document
import DiagServer.Json.Printer
import DiagServer.Json.Record

/-!
# Places and identities as JSON

A place is a record of a line and a character, a range one of its start and its end, and an
identity is a text.
-/

namespace DiagServer

open Json

namespace Position

/-- The fields of a place that were read so far. -/
structure Draft where
  line : Option UInt32 := none
  character : Option UInt32 := none

/-- The fields of a place in their declared order. -/
def fields : List (RecordField Draft) := [
  .of "line" true Draft.line (fun d x => { d with line := some x }) readUInt32,
  .of "character" true Draft.character (fun d x => { d with character := some x }) readUInt32]

/-- Read a place. -/
def read (bs : List UInt8) : Read Position :=
  match readRecord "Position" fields {} bs with
  | .error f => .error f
  | .ok (⟨some line, some character⟩, rest) => .ok (⟨line, character⟩, rest)
  | .ok (_, rest) => .error (.before (.missingField "line") rest)

/-- A place as a JSON value. -/
def toJson (p : Position) : Json :=
  .obj [("character", .int p.character.toNat), ("line", .int p.line.toNat)]

/-- A place as JSON text, its fields in declared order. -/
def render (p : Position) : List Char :=
  Json.render (.obj [("line", .int p.line.toNat), ("character", .int p.character.toNat)])

end Position

namespace Range

/-- The fields of a range that were read so far. -/
structure Draft where
  start : Option Position := none
  stop : Option Position := none

/-- The fields of a range in their declared order. -/
def fields : List (RecordField Draft) := [
  .of "start" true Draft.start (fun d x => { d with start := some x }) Position.read,
  .of "end" true Draft.stop (fun d x => { d with stop := some x }) Position.read]

/-- Read a range. -/
def read (bs : List UInt8) : Read Range :=
  match readRecord "Range" fields {} bs with
  | .error f => .error f
  | .ok (⟨some start, some stop⟩, rest) => .ok (⟨start, stop⟩, rest)
  | .ok (_, rest) => .error (.before (.missingField "start") rest)

/-- A range as a JSON value. -/
def toJson (r : Range) : Json := .obj [("end", r.stop.toJson), ("start", r.start.toJson)]

/-- A range as JSON text, its fields in declared order. -/
def render (r : Range) : List Char :=
  ['{'] ++ renderText "start" ++ ':' :: r.start.render ++ ',' :: renderText "end"
    ++ ':' :: r.stop.render ++ ['}']

end Range

namespace DocumentId

/-- Read an identity. -/
def read (bs : List UInt8) : Read DocumentId := Read.map DocumentId.mk (readString bs)

/-- An identity as JSON text. -/
def render (id : DocumentId) : List Char := renderText id.uri

end DocumentId

end DiagServer
