import DiagServer.Json.Basic

/-!
# Parameters of the notifications about documents

A record is an object whose further members do not count, or an array of its fields in their
declared order. A field that may be missing may also be null.
-/

namespace DiagServer.Protocol

/-- The fields of a record of these names; `none` where one is missing. An array has no more
items than the record has fields. -/
def fields? (names : List String) : Json → Option (List (Option Json))
  | .obj members => some (names.map fun name => members.lookup name)
  | .arr items =>
      if items.length ≤ names.length then
        some (items.map some ++ List.replicate (names.length - items.length) none)
      else none
  | _ => none

/-- An integer of 32 bits. -/
def int32? : Json → Option Int
  | .int i => if -0x80000000 ≤ i ∧ i < 0x80000000 then some i else none
  | _ => none

/-- A document that was opened. -/
structure DidOpen where
  uri : String
  language : String
  version : Int
  text : String
deriving Repr, DecidableEq

/-- One change of a document. -/
structure ContentChange where
  /-- Whether only a part of the text is replaced. -/
  isPartial : Bool
  text : String
deriving Repr, DecidableEq

/-- A document that changed. -/
structure DidChange where
  uri : String
  version : Int
  changes : List ContentChange
deriving Repr, DecidableEq

/-- A document that was closed. -/
structure DidClose where
  uri : String
deriving Repr, DecidableEq

/-- The parameters of an opening. -/
def DidOpen.ofJson? (v : Json) : Option DidOpen := do
  let [document] ← fields? ["textDocument"] v | none
  let [uri, language, version, text] ←
    fields? ["uri", "languageId", "version", "text"] (← document) | none
  some ⟨← (← uri).text?, ← (← language).text?, ← int32? (← version), ← (← text).text?⟩

/-- One change. -/
def ContentChange.ofJson? (v : Json) : Option ContentChange := do
  let [range, text] ← fields? ["range", "text"] v | none
  let isPartial : Bool :=
    match range with
    | none => false
    | some .null => false
    | some _ => true
  some ⟨isPartial, ← (← text).text?⟩

/-- The parameters of a change. -/
def DidChange.ofJson? (v : Json) : Option DidChange := do
  let [document, changes] ← fields? ["textDocument", "contentChanges"] v | none
  let [uri, version] ← fields? ["uri", "version"] (← document) | none
  let .arr items ← changes | none
  some ⟨← (← uri).text?, ← int32? (← version), ← items.mapM ContentChange.ofJson?⟩

/-- The parameters of a closing. -/
def DidClose.ofJson? (v : Json) : Option DidClose := do
  let [document] ← fields? ["textDocument"] v | none
  let [uri] ← fields? ["uri"] (← document) | none
  some ⟨← (← uri).text?⟩

/-- A notification about a document, with its parameters. -/
inductive DocumentNotice where
  | opened (params : DidOpen)
  | changed (params : DidChange)
  | closed (params : DidClose)
deriving Repr, DecidableEq

/-- The notice that a notification of this method gives; `none` for another method and for
parameters that are missing or do not fit. -/
def DocumentNotice.ofNotification? (method : String) (params : Option Json) :
    Option DocumentNotice := do
  if method = "textDocument/didOpen" then some (.opened (← DidOpen.ofJson? (← params)))
  else if method = "textDocument/didChange" then some (.changed (← DidChange.ofJson? (← params)))
  else if method = "textDocument/didClose" then some (.closed (← DidClose.ofJson? (← params)))
  else none

end DiagServer.Protocol
