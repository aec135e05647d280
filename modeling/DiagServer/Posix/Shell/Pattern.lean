import DiagServer.Posix.CharClass
import DiagServer.Posix.Stream

/-!
# Patterns

In a pattern a star stands for any text, a question mark for one character, and brackets for one
of several characters. A backslash keeps the character behind it from having a meaning. A pattern
for paths is matched part by part with what stands in the directories.
-/

namespace DiagServer.Posix.Shell

/-- Characters compare as signed bytes. -/
def rankOf (c : Char) : Int := (c.toNat : Int).bmod 256

/-- A class in brackets: whether a character belongs to it, and what is behind it. -/
def readClass? (c : Char) (pattern : List Char) : Option (Bool × List Char) :=
  match pattern with
  | ':' :: rest =>
      let name := rest.takeWhile (· ≠ ':')
      match rest.drop name.length with
      | ':' :: ']' :: behind => (CharClass.ofName? name).map fun k => (k.has c, behind)
      | _ => none
  | _ => none

/-- Read the inside of brackets, from its first character on: whether a character is among what
it stands for, and what is behind the closing bracket; `none` if there is none. The first argument
bounds the number of steps. -/
def readBracket? (c : Char) : Nat → Bool → List Char → Option (Bool × List Char)
  | 0, _, _ => none
  | _ + 1, _, [] => none
  | fuel + 1, found, p :: rest =>
      let go (found : Bool) (rest : List Char) : Option (Bool × List Char) :=
        match rest with
        | ']' :: behind => some (found, behind)
        | rest => readBracket? c fuel found rest
      let one (p : Char) (rest : List Char) : Option (Bool × List Char) :=
        match rest with
        | '-' :: ']' :: _ => go (found || c = p) rest
        | '-' :: '\\' :: q :: rest =>
            go (found || (rankOf p ≤ rankOf c && rankOf c ≤ rankOf q)) rest
        | '-' :: q :: rest => go (found || (rankOf p ≤ rankOf c && rankOf c ≤ rankOf q)) rest
        | rest => go (found || c = p) rest
      if p = '[' then
        match readClass? c rest with
        | some (has, behind) => go (found || has) behind
        | none => one p rest
      else if p = '\\' then
        match rest with
        | q :: rest => one q rest
        | [] => none
      else one p rest

/-- Whether a text matches a pattern. The first argument bounds the number of steps. -/
def matchesPattern : Nat → List Char → List Char → Bool
  | 0, _, _ => false
  | _ + 1, [], text => text.isEmpty
  | fuel + 1, p :: pattern, text =>
      let literal (p : Char) (pattern : List Char) : Bool :=
        match text with
        | c :: rest => c = p && matchesPattern fuel pattern rest
        | [] => false
      if p = '*' then
        matchesPattern fuel pattern text
          || match text with
            | [] => false
            | _ :: rest => matchesPattern fuel ('*' :: pattern) rest
      else if p = '?' then
        match text with
        | _ :: rest => matchesPattern fuel pattern rest
        | [] => false
      else if p = '\\' then
        match pattern with
        | q :: pattern => literal q pattern
        | [] => literal p []
      else if p = '[' then
        match text with
        | [] => false
        | c :: rest =>
            let (invert, inside) :=
              match pattern with
              | '!' :: inside => (true, inside)
              | inside => (false, inside)
            match readBracket? c (inside.length + 1) false inside with
            | some (found, behind) => found != invert && matchesPattern fuel behind rest
            | none => c = p && matchesPattern fuel pattern rest
      else literal p pattern

/-- Whether a text matches a pattern. -/
def fits (pattern text : List Char) : Bool :=
  matchesPattern (2 * (text.length + pattern.length) + 2) pattern text

/-- Whether the first of several texts, with zero characters between them, matches a pattern. -/
def fitsFirst (pattern texts : List Char) : Bool := fits pattern (texts.takeWhile (· ≠ '\x00'))

/-- The first place of so many where a text can be cut, which has to be in the first of several
texts unless the places come from the end. -/
def cutAt? (text : List Char) (fromEnd : Bool) (fine : Nat → Bool) : Option Nat :=
  if fromEnd then (List.range (text.length + 1)).reverse.find? fine
  else (List.range ((text.takeWhile (· ≠ '\x00')).length + 1)).find? fine

/-- A text without the shortest or the longest part at its front that fits a pattern. -/
def dropFront (longest : Bool) (pattern text : List Char) : List Char :=
  match cutAt? text longest fun n => fitsFirst pattern (text.take n) with
  | some n => text.drop n
  | none => text

/-- A text without the shortest or the longest part at its end that fits a pattern. -/
def dropBehind (longest : Bool) (pattern text : List Char) : List Char :=
  match cutAt? text (!longest) fun n => fitsFirst pattern (text.drop n) with
  | some n => text.take n
  | none => text

/-! ## Paths -/

/-- A pattern with its backslashes taken away. -/
def unescaped : List Char → List Char
  | '\\' :: c :: cs => c :: unescaped cs
  | c :: cs => c :: unescaped cs
  | [] => []

/-- Whether a bracket is closed further on. -/
def isClosed : List Char → Bool
  | '\\' :: _ :: cs => isClosed cs
  | c :: cs => c = ']' || isClosed cs
  | [] => false

/-- Whether a part of a pattern stands for more than one text. -/
def hasMeaning : List Char → Bool
  | [] => false
  | ['\\'] => false
  | '\\' :: _ :: cs => hasMeaning cs
  | c :: cs =>
      c = '*' || c = '?' || (c = '[' && isClosed (cs.drop (if cs.head? = some '!' then 2 else 1)))
        || hasMeaning cs

/-- The names in a directory, with those of itself and of the one above. -/
def namesIn (fs : FileSystem) (path : List Char) : List (List Char) :=
  match fs.resolve (toBytes (if path = [] then ['.'] else path)) with
  | .error _ => []
  | .ok place =>
      if fs.isDirectoryAt place then
        let below (components : List (List UInt8)) : Option (List Char) :=
          if components.length = place.length + 1 && place.isPrefixOf components then
            components.getLast?.map ofBytes
          else none
        ['.'] :: ['.', '.'] :: (fs.entries.filterMap (fun e => below e.1)
          ++ fs.links.filterMap fun l => below l.1)
      else []

/-- The paths for the parts of a pattern behind a path. `found` tells whether a part before stood
for several texts, and so the path has to be there. -/
def pathsFor (fs : FileSystem) : Bool → List Char → List (List Char) → List (List Char)
  | found, path, [] => if !found || fs.exists? (toBytes path) then [path] else []
  | found, path, part :: parts =>
      let behind (name : List Char) : List Char :=
        path ++ name ++ (if parts = [] then [] else ['/'])
      if hasMeaning part then
        let names := (namesIn fs path).filter fun name =>
          (name.head? ≠ some '.' || (unescaped part).head? = some '.') && fits part name
        names.flatMap fun name => pathsFor fs true (behind name) parts
      else pathsFor fs found (behind (unescaped part)) parts

/-- Whether a text comes before another or is the same, byte for byte. -/
def comesBefore : List Char → List Char → Bool
  | [], _ => true
  | _ :: _, [] => false
  | a :: as, b :: bs => a < b || (a = b && comesBefore as bs)

/-- The paths that a pattern stands for, in order; none if it is no pattern. -/
def pathsOf (fs : FileSystem) (pattern : List Char) : List (List Char) :=
  let parts := pattern.splitOn '/'
  if parts.any hasMeaning then (pathsFor fs false [] parts).mergeSort comesBefore else []

end DiagServer.Posix.Shell
