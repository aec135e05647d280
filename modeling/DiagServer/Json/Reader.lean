import DiagServer.Json.Basic
import DiagServer.Json.Token

/-!
# Reading JSON values

A value is read at a depth: the number of brackets that may still be opened around what
follows. The readers of arrays and objects take the reader of the level below as an argument,
so the recursion is on the depth. No list in a text has more items than the text has bytes, so
one limit, computed from the whole text, does for all loops over items.
-/

namespace DiagServer.Json

/-- The number of brackets that may be open at once. -/
def maxDepth : Nat := 127

/-- What stands where the next item of an array may. -/
inductive NextItem where
  | closed (rest : List UInt8)
  | item (bs : List UInt8)
deriving Repr, DecidableEq

/-- Look for the next item of an array, or for the bracket that closes it. -/
def nextItem (first : Bool) (bs : List UInt8) : Except Fault NextItem :=
  match skipGap bs with
  | [] => .error (.before .eofInList [])
  | b :: rest =>
      if b = 0x5D then .ok (.closed rest)
      else if first then .ok (.item (b :: rest))
      else if b = 0x2C then
        match skipGap rest with
        | [] => .error (.before .eofInValue [])
        | c :: rest =>
            if c = 0x5D then .error (.before .trailingComma rest) else .ok (.item (c :: rest))
      else .error (.before .expectedListCommaOrEnd rest)

/-- Read the items of an array and the bracket that closes it, each item with `item`. `seen`
holds the items so far, newest first. The first argument bounds the number of items. -/
def readItemsFrom {α : Type} (item : List UInt8 → Read α) :
    Nat → List α → List UInt8 → Read (List α)
  | 0, _, bs => .error (.before .eofInList bs)
  | fuel + 1, seen, bs =>
      match nextItem seen.isEmpty bs with
      | .error f => .error f
      | .ok (.closed rest) => .ok (seen.reverse, rest)
      | .ok (.item rest) =>
          match item rest with
          | .error f => .error f
          | .ok (v, rest) => readItemsFrom item fuel (v :: seen) rest

/-- Read the items of an array behind its opening bracket, fewer than `limit`. -/
def readItems {α : Type} (limit : Nat) (item : List UInt8 → Read α) (bs : List UInt8) :
    Read (List α) :=
  readItemsFrom item limit [] bs

/-- Read the colon behind a name. -/
def readColon (bs : List UInt8) : Except Fault (List UInt8) :=
  match skipGap bs with
  | [] => .error (.before .eofInObject [])
  | b :: rest => if b = 0x3A then .ok rest else .error (.before .expectedColon rest)

/-- What stands where the next member of an object may. -/
inductive NextMember where
  | closed (rest : List UInt8)
  /-- A name follows; its opening quote is taken. -/
  | name (rest : List UInt8)
deriving Repr, DecidableEq

/-- Look for the next member of an object, or for the brace that closes it. -/
def nextMember (first : Bool) (bs : List UInt8) : Except Fault NextMember :=
  match skipGap bs with
  | [] => .error (.before .eofInObject [])
  | b :: rest =>
      if b = 0x7D then .ok (.closed rest)
      else if first then
        if b = 0x22 then .ok (.name rest) else .error (.before .nameNotText rest)
      else if b = 0x2C then
        match skipGap rest with
        | [] => .error (.before .eofInValue [])
        | c :: rest =>
            if c = 0x22 then .ok (.name rest)
            else if c = 0x7D then .error (.before .trailingComma rest)
            else .error (.before .nameNotText rest)
      else .error (.before .expectedObjectCommaOrEnd rest)

/-- Read the members of an object and the brace that closes it, each value with `value`. -/
def readMembersFrom {α : Type} (value : List UInt8 → Read α) :
    Nat → List (String × α) → List UInt8 → Read (List (String × α))
  | 0, _, bs => .error (.before .eofInObject bs)
  | fuel + 1, seen, bs =>
      match nextMember seen.isEmpty bs with
      | .error f => .error f
      | .ok (.closed rest) => .ok (seen.reverse, rest)
      | .ok (.name rest) =>
          match readText rest with
          | .error f => .error f
          | .ok (name, rest) =>
              match readColon rest with
              | .error f => .error f
              | .ok rest =>
                  match value rest with
                  | .error f => .error f
                  | .ok (v, rest) => readMembersFrom value fuel ((name, v) :: seen) rest

/-- Read the members of an object behind its opening brace, fewer than `limit`. -/
def readMembers {α : Type} (limit : Nat) (value : List UInt8 → Read α) (bs : List UInt8) :
    Read (List (String × α)) :=
  readMembersFrom value limit [] bs

/-- The value of a number. -/
def Number.toJson : Number → Json
  | .int i => .int i
  | .double x => .double x

/-- Change the value of a result. -/
def Read.map {α β : Type} (f : α → β) (r : Read α) : Read β :=
  match r with
  | .ok (a, rest) => .ok (f a, rest)
  | .error e => .error e

/-- Read a keyword whose first letter is taken, and give it a value. -/
def readConstant {α : Type} (word : List UInt8) (value : α) (bs : List UInt8) : Read α :=
  match readKeyword word bs with
  | .ok rest => .ok (value, rest)
  | .error f => .error f

/-- The letters of `null` behind the first. -/
def wordNull : List UInt8 := [0x75, 0x6C, 0x6C]

/-- The letters of `true` behind the first. -/
def wordTrue : List UInt8 := [0x72, 0x75, 0x65]

/-- The letters of `false` behind the first. -/
def wordFalse : List UInt8 := [0x61, 0x6C, 0x73, 0x65]

/-- Read a value around which `depth` more brackets may be opened and in which each list has fewer
than `limit` items. -/
def readValue (limit depth : Nat) (bs : List UInt8) : Read Json :=
  match skipGap bs with
  | [] => .error (.before .eofInValue [])
  | b :: rest =>
      if b = 0x6E then readConstant wordNull .null rest
      else if b = 0x74 then readConstant wordTrue (.bool true) rest
      else if b = 0x66 then readConstant wordFalse (.bool false) rest
      else if b = 0x2D then Read.map Number.toJson (readNumber true rest)
      else if isDigit b then Read.map Number.toJson (readNumber false (b :: rest))
      else if b = 0x22 then Read.map Json.str (readText rest)
      else if b = 0x5B then
        match depth with
        | 0 => .error (.before .tooDeep rest)
        | depth + 1 => Read.map Json.arr (readItems limit (readValue limit depth) rest)
      else if b = 0x7B then
        match depth with
        | 0 => .error (.before .tooDeep rest)
        | depth + 1 => Read.map Json.object (readMembers limit (readValue limit depth) rest)
      else .error (.before .expectedValue rest)

/-- Read a whole input: one value with nothing but blanks behind it. -/
def readWhole {α : Type} (value : List UInt8 → Read α) (bs : List UInt8) : Except Fault α :=
  match value bs with
  | .error f => .error f
  | .ok (v, rest) =>
      match skipGap rest with
      | [] => .ok v
      | _ :: rest => .error (.before .trailingCharacters rest)

/-- The value that a whole input is the text of. -/
def parse (bs : List UInt8) : Except Fault Json :=
  readWhole (readValue (bs.length + 1) maxDepth) bs

end DiagServer.Json
