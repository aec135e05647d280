import DiagServer.Keyed

/-!
# TOML documents

A document is a table, and its statements fill it from top to bottom. How a table came about
decides what may still be added to it: the braces of an inline table close it for good, a header
defines a table once, a longer header or a dotted key only implies the tables on its way. A
table that was only implied may be added to by dotted keys. One that headers alone implied may
yet be defined by a header of its own.

Texts are kept, for settings are texts or lists of texts. Of any other plain value only its kind
is kept.
-/

namespace DiagServer

namespace Toml

/-- The kinds of plain values that are not texts. -/
inductive Kind where
  | boolean
  | integer
  | float
  /-- A date, a time or both. -/
  | moment
deriving Repr, DecidableEq

/-- How a table came about. -/
inductive Origin where
  /-- Between braces. -/
  | inline
  /-- By a header that names it. -/
  | header
  /-- By a header that names a table inside it. -/
  | implied
  /-- By a dotted key. -/
  | dotted
deriving Repr, DecidableEq

end Toml

/-- A value of a TOML document. -/
inductive Toml where
  | str (s : String)
  | plain (kind : Toml.Kind)
  | arr (items : List Toml)
  | table (origin : Toml.Origin) (entries : List (String × Toml))
  /-- The tables that headers in double brackets made, in order. -/
  | tables (items : List (List (String × Toml)))
deriving Repr, Inhabited

namespace Toml

/-- The entries of a table. -/
abbrev Entries := List (String × Toml)

/-- Where a value is put: the keys of the tables on the way, and its own. -/
structure Key where
  path : List String
  last : String
deriving Repr, DecidableEq

/-- What leads to a table: a header, or a dotted key in a table. -/
inductive Way where
  | header
  | dotted
deriving Repr, DecidableEq

/-- The origin of the tables that a way implies. -/
def Way.origin : Way → Origin
  | .header => .implied
  | .dotted => .dotted

/-- Whether a way may lead through a table. A header may lead through any table but an inline
one, a dotted key only through those that were implied. -/
def Way.admits : Way → Origin → Bool
  | .header, origin => origin ≠ .inline
  | .dotted, origin => origin = .dotted || origin = .implied

/-- The origin of a table once a way has led through it. A dotted key makes the table its own. -/
def Way.through : Way → Origin → Origin
  | .header, origin => origin
  | .dotted, _ => .dotted

/-- Change what stands under a key, once the tables on the way are found or implied. The way
through a list of tables is through its last, and a dotted key may not end in that. There is no
result if the way is barred, or if `change` has none. -/
def alter (way : Way) (last : String) (change : Option Toml → Option Toml) :
    List String → Entries → Option Entries
  | [], entries => do
      let value ← change (Keyed.find? last entries)
      some (Keyed.put last value entries)
  | key :: path, entries =>
      match Keyed.find? key entries with
      | none => do
          let inner ← alter way last change path []
          some (Keyed.put key (.table way.origin inner) entries)
      | some (.table origin inner) =>
          if way.admits origin then do
            let inner ← alter way last change path inner
            some (Keyed.put key (.table (way.through origin) inner) entries)
          else none
      | some (.tables items) => do
          let inner ← items.getLast?
          if way = .header ∨ ¬ path.isEmpty then
            let inner ← alter way last change path inner
            some (Keyed.put key (.tables (items.dropLast ++ [inner])) entries)
          else none
      | some _ => none

/-- Put a value under a key that has none yet. -/
def insert (entries : Entries) (item : Key × Toml) : Option Entries :=
  alter .dotted item.1.last (fun old => if old.isSome then none else some item.2)
    item.1.path entries

/-- Put values under their keys, one after the other. -/
def insertAll (entries : Entries) (items : List (Key × Toml)) : Option Entries :=
  items.foldlM insert entries

/-- The inline table with these items. -/
def inlineTable (items : List (Key × Toml)) : Option Toml :=
  (insertAll [] items).map (.table .inline)

/-- A line of a document that says something. -/
inductive Statement where
  | item (key : Key) (value : Toml)
  /-- A key in brackets: the items below belong to the table of this name. -/
  | table (key : Key)
  /-- A key in double brackets: the items below belong to one more table in the list of this
  name. -/
  | element (key : Key)
deriving Repr

/-- A header with the items below it. -/
structure Section where
  key : Key
  /-- Whether the header is in double brackets. -/
  isElement : Bool
  items : List (Key × Toml)

/-- Put a statement in front of the items and sections that follow it. -/
def Statement.before (s : Statement) (rest : List (Key × Toml) × List Section) :
    List (Key × Toml) × List Section :=
  match s with
  | .item key value => ((key, value) :: rest.1, rest.2)
  | .table key => ([], ⟨key, false, rest.1⟩ :: rest.2)
  | .element key => ([], ⟨key, true, rest.1⟩ :: rest.2)

/-- What a section makes of the value that stands under its key. A header in brackets takes over
a table that was only implied by headers. -/
def Section.define (s : Section) : Option Toml → Option Toml
  | none => do
      let entries ← insertAll [] s.items
      some (if s.isElement then .tables [entries] else .table .header entries)
  | some (.table .implied entries) =>
      if s.isElement then none else (insertAll entries s.items).map (.table .header)
  | some (.tables items) =>
      if s.isElement then (insertAll [] s.items).map fun entries => .tables (items ++ [entries])
      else none
  | some _ => none

/-- Add a section to a document. -/
def addSection (entries : Entries) (s : Section) : Option Entries :=
  alter .header s.key.last s.define s.key.path entries

/-- The document that consists of these statements; `none` if one of them goes against another
before it. -/
def ofStatements (statements : List Statement) : Option Toml := do
  let (items, sections) := statements.foldr Statement.before ([], [])
  let entries ← sections.foldlM addSection (← insertAll [] items)
  some (.table .header entries)

/-- The values of a record's fields, `none` for each that is not given. A record is a table with
the fields' names as keys, among any others, or an array of the values in the fields' order, of
which the last may be missing. A moment counts as a table with none of these keys. -/
def fields? (names : List String) : Toml → Option (List (Option Toml))
  | .table _ entries => some (names.map fun name => Keyed.find? name entries)
  | .arr items => some (names.zipIdx.map fun (_, i) => items[i]?)
  | .tables items =>
      some (names.zipIdx.map fun (_, i) => items[i]?.map (.table .header))
  | .plain .moment => some (names.map fun _ => none)
  | _ => none

/-- The text, if the value is one. -/
def text? : Toml → Option String
  | .str s => some s
  | _ => none

/-- The texts, if the value is an array of them. -/
def texts? : Toml → Option (List String)
  | .arr items => items.mapM text?
  | _ => none

end Toml

end DiagServer
