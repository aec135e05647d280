import DiagServer.Toml.Plain

/-!
# Reading TOML documents

A document is a list of lines: an item, a header, or nothing, each with a comment at its end if
it likes. Arrays and inline tables may be spread over lines, with comments between their parts,
and may end in a comma. They are read at a depth, the number of brackets that may still be opened
around what follows; the readers of their parts take the reader of the level below as an
argument, so the recursion is on the depth. No list in a text, be it of items or of lines, is
longer than the text, so one limit does for all loops.
-/

namespace DiagServer.Toml

/-- The number of brackets that may be open at once. -/
def maxDepth : Nat := 80

/-- The number of parts that a key may have. -/
def maxParts : Nat := 80

/-- What is left behind the blanks of a line. -/
def skipBlanks (cs : List Char) : List Char := cs.dropWhile isBlank

/-- What is left behind blanks, ends of lines and comments. The flag tells whether a comment is
open. -/
def skipGapFrom : Bool → List Char → Option (List Char)
  | _, [] => some []
  | inComment, c :: cs =>
      if c = '\n' then skipGapFrom false cs
      else if inComment then
        if isPrintable c ∨ c = '\r' then skipGapFrom true cs else none
      else if c = '#' then skipGapFrom true cs
      else if isBlank c then skipGapFrom false cs
      else some (c :: cs)

/-- What is left behind blanks, ends of lines and comments. -/
def skipGap (cs : List Char) : Option (List Char) := skipGapFrom false cs

/-- What is left behind the end of a line, where nothing but blanks and a comment may stand. The
flag tells whether the comment is open. -/
def endLineFrom : Bool → List Char → Option (List Char)
  | _, [] => some []
  | inComment, c :: cs =>
      if c = '\n' then some cs
      else if inComment then
        if isPrintable c ∨ c = '\r' then endLineFrom true cs else none
      else if c = '#' then endLineFrom true cs
      else if isBlank c then endLineFrom false cs
      else none

/-- What is left behind the end of a line. -/
def endLine (cs : List Char) : Option (List Char) := endLineFrom false cs

/-! ## Keys -/

/-- Whether a character may stand in a key without quotes. -/
def isKeyChar (c : Char) : Bool := c.isAlphanum || c = '-' || c = '_'

/-- Read one part of a key. -/
def readKeyPart (cs : List Char) : Option (String × List Char) :=
  match cs with
  | '"' :: rest => (readLine .basic [] rest).map fun (s, rest) => (String.ofList s, rest)
  | '\'' :: rest => (readLine .literal [] rest).map fun (s, rest) => (String.ofList s, rest)
  | cs =>
      let word := cs.takeWhile isKeyChar
      if word = [] then none else some (String.ofList word, cs.dropWhile isKeyChar)

/-- Read a key of at most so many parts, which have dots between them. `path` holds the parts so
far, the last one first. -/
def readKeyFrom : Nat → List String → List Char → Option (Key × List Char)
  | 0, _, _ => none
  | fuel + 1, path, cs => do
      let (part, rest) ← readKeyPart (skipBlanks cs)
      match skipBlanks rest with
      | '.' :: rest => readKeyFrom fuel (part :: path) rest
      | rest => some (⟨path.reverse, part⟩, rest)

/-- Read a key. -/
def readKey (cs : List Char) : Option (Key × List Char) := readKeyFrom maxParts [] cs

/-! ## Values -/

/-- Read the items of an array up to its closing bracket, each with `value`. `seen` holds the
items so far, newest first. The first argument bounds the number of items. -/
def readItemsFrom (value : List Char → Option (Toml × List Char)) :
    Nat → List Toml → List Char → Option (List Toml × List Char)
  | 0, _, _ => none
  | fuel + 1, seen, cs => do
      match ← skipGap cs with
      | ']' :: rest => some (seen.reverse, rest)
      | rest =>
          let (v, rest) ← value rest
          match ← skipGap rest with
          | ',' :: rest => readItemsFrom value fuel (v :: seen) rest
          | ']' :: rest => some ((v :: seen).reverse, rest)
          | _ => none

/-- Read the items of an inline table up to its closing brace, each value with `value`. `seen`
holds the items so far, newest first. The first argument bounds the number of items. -/
def readEntriesFrom (value : List Char → Option (Toml × List Char)) :
    Nat → List (Key × Toml) → List Char → Option (List (Key × Toml) × List Char)
  | 0, _, _ => none
  | fuel + 1, seen, cs => do
      match ← skipGap cs with
      | '}' :: rest => some (seen.reverse, rest)
      | rest =>
          let (k, rest) ← readKey rest
          match ← skipGap rest with
          | '=' :: rest =>
              let (v, rest) ← value (← skipGap rest)
              match ← skipGap rest with
              | ',' :: rest => readEntriesFrom value fuel ((k, v) :: seen) rest
              | '}' :: rest => some (((k, v) :: seen).reverse, rest)
              | _ => none
          | _ => none

/-- Read a value around which `depth` more brackets may be opened and in which no list is longer
than `limit`. -/
def readValue (limit depth : Nat) (cs : List Char) : Option (Toml × List Char) :=
  match cs with
  | [] => none
  | c :: rest =>
      if c = '[' then
        match depth with
        | 0 => none
        | depth + 1 => do
            let (items, rest) ← readItemsFrom (readValue limit depth) limit [] rest
            some (.arr items, rest)
      else if c = '{' then
        match depth with
        | 0 => none
        | depth + 1 => do
            let (items, rest) ← readEntriesFrom (readValue limit depth) limit [] rest
            some (← inlineTable items, rest)
      else if c = '"' ∨ c = '\'' then do
        let (s, rest) ← readText (c :: rest)
        some (.str s, rest)
      else readPlain (c :: rest)

/-! ## Lines -/

/-- Read what a line says, up to its end. -/
def readStatement (limit : Nat) (cs : List Char) : Option (Statement × List Char) :=
  match cs with
  | '[' :: '[' :: rest => do
      match ← readKey rest with
      | (key, ']' :: ']' :: rest) => some (.element key, rest)
      | _ => none
  | '[' :: rest => do
      match ← readKey rest with
      | (key, ']' :: rest) => some (.table key, rest)
      | _ => none
  | cs => do
      match ← readKey cs with
      | (key, '=' :: rest) =>
          let (v, rest) ← readValue limit maxDepth (skipBlanks rest)
          some (.item key v, rest)
      | _ => none

/-- Read the statements of a document, behind those in `seen`, newest first. The second argument
bounds their number. -/
def readStatementsFrom (limit : Nat) : Nat → List Statement → List Char → Option (List Statement)
  | 0, _, _ => none
  | fuel + 1, seen, cs => do
      match ← skipGap cs with
      | [] => some seen.reverse
      | rest =>
          let (s, rest) ← readStatement limit rest
          readStatementsFrom limit fuel (s :: seen) (← endLine rest)

/-- Whether every carriage return stands before a line feed. -/
def returnsPaired : List Char → Bool
  | [] => true
  | '\r' :: '\n' :: cs => returnsPaired cs
  | c :: cs => c ≠ '\r' && returnsPaired cs

/-- A text without a byte order mark at its start. -/
def dropMark : List Char → List Char
  | '\uFEFF' :: cs => cs
  | cs => cs

/-- The document that a text holds. -/
def parse (cs : List Char) : Option Toml := do
  let cs := dropMark cs
  let limit := cs.length + 1
  if returnsPaired cs then ofStatements (← readStatementsFrom limit limit [] cs) else none

end DiagServer.Toml
