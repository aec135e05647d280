import DiagServer.Json.Reader
import DiagServer.Json.Skip

/-!
# Reading records straight from their text

A record is written as an object, in any order and with any further members, or as an array of
its fields in their declared order, where the last ones may be left out if they are optional.
Because the text is read as it comes, the first fault in it is the one that is reported, be it
of the text or of a value's type, and a field given twice is a fault of its own.
-/

namespace DiagServer.Json

/-- The fault for a value of another type than the one expected. The value is read as far as is
needed to describe it, so a malformed one is reported as such. -/
def mismatch {α : Type} (expected : String) (bs : List UInt8) : Read α :=
  let wrong (found : Found) (rest : List UInt8) : Read α :=
    .error (.before (.wrongType found expected) rest)
  let constant (word : List UInt8) (found : Found) (rest : List UInt8) : Read α :=
    match readKeyword word rest with
    | .ok rest => wrong found rest
    | .error f => .error f
  let number (negative : Bool) (bs : List UInt8) : Read α :=
    match readNumber negative bs with
    | .ok (.int i, rest) => wrong (.int i) rest
    | .ok (.double x, rest) => wrong (.double x) rest
    | .error f => .error f
  match bs with
  | [] => .error (.before .expectedValue [])
  | b :: rest =>
      if b = 0x6E then constant wordNull .null rest
      else if b = 0x74 then constant wordTrue (.bool true) rest
      else if b = 0x66 then constant wordFalse (.bool false) rest
      else if b = 0x2D then number true rest
      else if isDigit b then number false (b :: rest)
      else if b = 0x22 then
        match readText rest with
        | .ok (s, rest) => wrong (.str s) rest
        | .error f => .error f
      else if b = 0x5B then wrong .seq (b :: rest)
      else if b = 0x7B then wrong .map (b :: rest)
      else .error (.before .expectedValue rest)

/-- Read a text. -/
def readString (bs : List UInt8) : Read String :=
  match skipGap bs with
  | [] => .error (.before .eofInValue [])
  | b :: rest => if b = 0x22 then readText rest else mismatch "a string" (b :: rest)

/-- Read an unsigned integer of 32 bits. -/
def readUInt32 (bs : List UInt8) : Read UInt32 :=
  let fit (r : Read Number) : Read UInt32 :=
    match r with
    | .error f => .error f
    | .ok (.double x, rest) => .error (.before (.wrongType (.double x) "u32") rest)
    | .ok (.int i, rest) =>
        if 0 ≤ i ∧ i < UInt32.size then .ok (UInt32.ofNat i.toNat, rest)
        else .error (.before (.outOfRange i "u32") rest)
  match skipGap bs with
  | [] => .error (.before .eofInValue [])
  | b :: rest =>
      if b = 0x2D then fit (readNumber true rest)
      else if isDigit b then fit (readNumber false (b :: rest))
      else mismatch "u32" (b :: rest)

/-- Read an array of texts. -/
def readStrings (bs : List UInt8) : Read (List String) :=
  match skipGap bs with
  | [] => .error (.before .eofInValue [])
  | b :: rest =>
      if b = 0x5B then readItems (rest.length + 1) readString rest
      else mismatch "a sequence" (b :: rest)

/-- A field of a record that is collected in a draft of type `σ`. -/
structure RecordField (σ : Type) where
  name : String
  required : Bool
  /-- Whether the draft has the field already. -/
  given : σ → Bool
  /-- Read the field's value into the draft. -/
  read : σ → List UInt8 → Read σ

/-- A field that reads a value with `value` and puts it into the draft with `put`. -/
def RecordField.of {σ α : Type} (name : String) (required : Bool) (get : σ → Option α)
    (put : σ → α → σ) (value : List UInt8 → Read α) : RecordField σ where
  name := name
  required := required
  given draft := (get draft).isSome
  read draft bs := Read.map (put draft) (value bs)

/-- The name of the first required field that a draft lacks. -/
def missing? {σ : Type} (fields : List (RecordField σ)) (draft : σ) : Option String :=
  (fields.find? fun f => f.required && !f.given draft).map RecordField.name

/-- The bytes left where a fault in the middle of an object is placed: behind the blanks, and
behind the closing brace if that comes next. -/
def afterBrace (bs : List UInt8) : List UInt8 :=
  match skipGap bs with
  | 0x7D :: rest => rest
  | rest => rest

/-- Read the members of a record written as an object. The first argument bounds their
number. -/
def readRecordMembers {σ : Type} (fields : List (RecordField σ)) :
    Nat → Bool → σ → List UInt8 → Read σ
  | 0, _, _, bs => .error (.before .eofInObject bs)
  | fuel + 1, first, draft, bs =>
      match nextMember first bs with
      | .error f => .error f
      | .ok (.closed rest) =>
          match missing? fields draft with
          | some name => .error (.before (.missingField name) rest)
          | none => .ok (draft, rest)
      | .ok (.name rest) =>
          match readText rest with
          | .error f => .error f
          | .ok (name, rest) =>
              match fields.find? (·.name = name) with
              | none =>
                  match readColon rest with
                  | .error f => .error f
                  | .ok rest =>
                      match skipValue rest with
                      | .error f => .error f
                      | .ok rest => readRecordMembers fields fuel false draft rest
              | some field =>
                  if field.given draft then
                    .error (.before (.repeatedField name) (afterBrace rest))
                  else
                    match readColon rest with
                    | .error f => .error f
                    | .ok rest =>
                        match field.read draft rest with
                        | .error f => .error f
                        | .ok (draft, rest) => readRecordMembers fields fuel false draft rest

/-- Read the bracket that closes a record written as an array. -/
def readRecordEnd (bs : List UInt8) : Except Fault (List UInt8) :=
  match skipGap bs with
  | [] => .error (.before .eofInList [])
  | b :: rest =>
      if b = 0x5D then .ok rest
      else if b = 0x2C then
        match skipGap rest with
        | 0x5D :: rest => .error (.before .trailingComma rest)
        | rest => .error (.after .trailingCharacters rest)
      else .error (.before .trailingCharacters rest)

/-- Read the fields of a record written as an array, in their order; `count` of them are read
and `all` is their number. -/
def readRecordItems {σ : Type} (title : String) (all : Nat) :
    List (RecordField σ) → Nat → σ → List UInt8 → Read σ
  | [], _, draft, bs =>
      match readRecordEnd bs with
      | .ok rest => .ok (draft, rest)
      | .error f => .error f
  | field :: fields, count, draft, bs =>
      match nextItem (count == 0) bs with
      | .error f => .error f
      | .ok (.item rest) =>
          match field.read draft rest with
          | .error f => .error f
          | .ok (draft, rest) => readRecordItems title all fields (count + 1) draft rest
      | .ok (.closed rest) =>
          if field.required then .error (.before (.tooFewItems count title all) rest)
          else readRecordItems title all fields (count + 1) draft bs

/-- Read a record of this title and these fields. -/
def readRecord {σ : Type} (title : String) (fields : List (RecordField σ)) (empty : σ)
    (bs : List UInt8) : Read σ :=
  match skipGap bs with
  | [] => .error (.before .eofInValue [])
  | b :: rest =>
      if b = 0x5B then readRecordItems title fields.length fields 0 empty rest
      else if b = 0x7B then readRecordMembers fields (rest.length + 1) true empty rest
      else mismatch ("struct " ++ title) (b :: rest)

end DiagServer.Json
