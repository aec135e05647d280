import DiagServer.Uri.FilePath

/-!
# Documents

A document is known by its identity, normally a URI, and carries a language tag and its whole
text. Identities are ordered by their bytes, which for texts is the order of code points.
-/

namespace DiagServer

/-- What a document is known by. -/
structure DocumentId where
  uri : String
deriving Repr, DecidableEq

/-- Identities are ordered by their bytes. -/
instance : Ord DocumentId where
  compare a b := compare a.uri b.uri

namespace DocumentId

/-- The identity of the file at an absolute path, `none` for a relative one. -/
def ofPath? (path : List UInt8) : Option DocumentId :=
  (Uri.ofPath? path).map fun cs => ⟨String.ofList cs⟩

/-- The path of the file that an identity names, if it names one. -/
def toPath? (id : DocumentId) : Option (List UInt8) := Uri.toPath? id.uri.toList

/-- The name under which a front-end gets the document: the path of its file, or the identity
itself if it names no file. -/
def fileName (id : DocumentId) : String :=
  match id.toPath? with
  | some path => Text.Utf8.decodeLossy path
  | none => id.uri

end DocumentId

/-- The wording for a path that has no identity. -/
def noIdentityMessage (path : List UInt8) : String :=
  "cannot convert path to file URI: " ++ Text.Utf8.decodeLossy path

/-- A document at one moment. -/
structure TextDocument where
  id : DocumentId
  language : String
  text : String
deriving Repr, DecidableEq

/-- The document with a newer text. -/
def TextDocument.setText (d : TextDocument) (text : String) : TextDocument :=
  { d with text := text }

end DiagServer
