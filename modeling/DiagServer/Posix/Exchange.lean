import DiagServer.Posix.CharClass
import DiagServer.Posix.Printf
import DiagServer.Posix.Utility

/-!
# Exchanging characters

Characters are exchanged for others, deleted, or squeezed where they stand side by side. Which
ones is told by sets, which are written out, with ranges, with classes, and with repetitions. Two
sets are matched character for character; a class of letters in the second set is matched with
one of the first as a whole.
-/

namespace DiagServer.Posix.Exchange

/-! ## Sets -/

/-- An element of a set as it is written. -/
inductive Element where
  | char (c : Char)
  | range (a b : Char)
  | kind (k : CharClass)
  /-- The characters that count as the same as this one. -/
  | equivalent (c : Char)
  /-- A character so many times; with a count of zero, as often as it takes. -/
  | repeated (c : Char) (count : Nat)
deriving Repr, DecidableEq

/-- The characters from one to another. -/
def charsBetween (a b : Char) : List Char :=
  (List.range (b.toNat + 1 - a.toNat)).map fun i => Char.ofNat (a.toNat + i)

/-- The characters of an element. -/
def Element.chars : Element → List Char
  | .char c => [c]
  | .range a b => charsBetween a b
  | .kind k => k.chars
  | .equivalent c => [c]
  | .repeated c count => List.replicate count c

/-- The characters of a set, in the order in which they are written. -/
def charsOf (set : List Element) : List Char := set.flatMap Element.chars

/-! ## Reading sets -/

/-- A character of a set, and whether it was escaped. -/
abbrev Sign := Char × Bool

/-- Read octal digits behind a backslash, as long as they stand for a byte. -/
def readOctalSign (cs : List Char) : Char × List Char :=
  let digits := (cs.take 3).takeWhile isOctal
  let digits := if ofDigits 8 digits < 256 then digits else digits.take 2
  (Char.ofNat (ofDigits 8 digits), cs.drop digits.length)

/-- A set with its escapes read. The first argument bounds the number of steps. -/
def readSigns : Nat → List Char → List Sign
  | 0, _ => []
  | _ + 1, [] => []
  | _ + 1, ['\\'] => [('\\', false)]
  | fuel + 1, '\\' :: c :: cs =>
      if isOctal c then
        let (d, rest) := readOctalSign (c :: cs)
        (d, true) :: readSigns fuel rest
      else ((escapedLetter? c).getD c, true) :: readSigns fuel cs
  | fuel + 1, c :: cs => (c, false) :: readSigns fuel cs

/-- What stands between a colon or an equals sign and the next one before a bracket. -/
def readNamed (mark : Char) : List Sign → Option (List Char × List Sign)
  | [] => none
  | [_] => none
  | a :: b :: rest =>
      if a = (mark, false) ∧ b = (']', false) then some ([], rest)
      else (readNamed mark (b :: rest)).map fun (name, rest) => (a.1 :: name, rest)

/-- Whether a star, digits and a bracket stand at the front. -/
def isStarred (cs : List Sign) : Bool :=
  match cs with
  | star :: rest =>
      star = ('*', false) && (rest.dropWhile fun s => s.1.isDigit).head? = some (']', false)
  | [] => false

/-- Read a character with a star and a count, up to the bracket; the outer `none` stands for a
count that makes no sense, the inner one for no such thing. -/
def readRepeated? (cs : List Sign) : Option (Option (Element × List Sign)) :=
  match cs with
  | (c, _) :: star :: rest =>
      if star = ('*', false) then
        let plain := rest.takeWhile fun s => !s.2 && s.1 ≠ ']'
        let digits := plain.map Prod.fst
        match rest.drop plain.length with
        | (']', false) :: rest =>
            let base := if digits.head? = some '0' then 8 else 10
            if digits.all (isDigitIn base) then
              some (some (.repeated c (ofDigits base digits), rest))
            else none
        | _ => some none
      else some none
  | _ => some none

/-- Read the elements of a set; `none` if it makes no sense. The first argument bounds the number
of steps. -/
def readElements : Nat → List Sign → Option (List Element)
  | 0, _ => none
  | _ + 1, [] => some []
  | _ + 1, [a] => some [.char a.1]
  | _ + 1, [a, b] => some [.char a.1, .char b.1]
  | fuel + 1, a :: b :: c :: rest => do
      let next (e : Element) (rest : List Sign) : Option (List Element) :=
        (readElements fuel rest).map (e :: ·)
      let plain : Option (List Element) :=
        if b = ('-', false) then if c.1 < a.1 then none else next (.range a.1 c.1) rest
        else next (.char a.1) (b :: c :: rest)
      let starred : Option (List Element) := do
        match ← readRepeated? (b :: c :: rest) with
        | some (e, rest) => next e rest
        | none => plain
      if a ≠ ('[', false) then plain
      else if b = (':', false) ∨ b = ('=', false) then
        match readNamed b.1 (c :: rest) with
        | none => starred
        | some (name, behind) =>
            let element : Option Element :=
              match b.1, name with
              | '=', [d] => some (.equivalent d)
              | '=', _ => none
              | _, name => (CharClass.ofName? name).map .kind
            match element with
            | some e => next e behind
            | none => if name ≠ [] ∧ isStarred (c :: rest) then starred else none
      else starred

/-- The elements of a set as it is written. -/
def readSet? (cs : List Char) : Option (List Element) :=
  readElements (cs.length + 1) (readSigns (cs.length + 1) cs)

/-! ## Matching two sets -/

/-- What one set is matched by: a character, or a class of letters as a whole. -/
inductive Piece where
  | char (c : Char)
  | letters (upper : Bool)
deriving Repr, DecidableEq

/-- The pieces of an element. -/
def Element.pieces : Element → List Piece
  | .kind .upper => [.letters true]
  | .kind .lower => [.letters false]
  | e => e.chars.map .char

/-- A class of letters. -/
def lettersOf (upper : Bool) : List Char := (if upper then CharClass.upper else .lower).chars

/-- The letter of the other case. -/
def otherCase (c : Char) : Char := if c.isUpper then c.toLower else c.toUpper

/-- Match the pieces of two sets: the pairs of characters, and what is left of either; `none` if a
class of letters is not matched by one. The first argument bounds the number of steps. -/
def matchPieces : Nat → List Piece → List Piece →
    Option (List (Char × Char) × List Piece × List Piece)
  | 0, _, _ => none
  | fuel + 1, first, second => do
      match first, second with
      | .letters u :: first, .letters v :: second =>
          let (pairs, left) ← matchPieces fuel first second
          let here := (lettersOf u).zip (if u = v then lettersOf v else (lettersOf u).map otherCase)
          some (here ++ pairs, left)
      | _, .letters _ :: _ => none
      | .letters u :: first, second =>
          if second = [] then some ([], .letters u :: first, [])
          else matchPieces fuel ((lettersOf u).map .char ++ first) second
      | .char a :: first, .char b :: second =>
          let (pairs, left) ← matchPieces fuel first second
          some ((a, b) :: pairs, left)
      | [], second => some ([], [], second)
      | first, [] => some ([], first, [])

/-- The characters that are not in a list. -/
def others (cs : List Char) : List Char := alphabet.filter (!cs.contains ·)

/-- The character that fills up a set, `none` if that ends with a class. -/
def fillerOf? (set : List Element) : Option Char :=
  match set.getLast? with
  | some (.char c) => some c
  | some (.range _ b) => some b
  | some (.repeated c _) => some c
  | _ => none

/-- Whether an element is a repetition without a count. -/
def isEndless : Element → Bool
  | .repeated _ 0 => true
  | _ => false

/-- Whether an element is a class. -/
def isClass : Element → Bool
  | .kind _ => true
  | _ => false

/-- Whether an element may stand in the set of replacements. -/
def mayReplace : Element → Bool
  | .equivalent _ => false
  | .kind k => k = .upper || k = .lower
  | _ => true

/-- The second set with its endless repetition as long as the first set needs it. -/
def settleEndless (length : Nat) (set : List Element) : List Element :=
  let missing := length - (charsOf set).length
  set.flatMap fun e =>
    match e with
    | .repeated c 0 => if missing = 0 then [] else [.repeated c missing]
    | e => [e]

/-- The pairs of characters by which a text is exchanged; `none` if the sets do not match. With
`outside`, what is not in the first set is exchanged; with `cut`, a first set that is too long
is cut off. The result comes with all characters of the second set. -/
def pairsOf? (outside cut : Bool) (first second : List Element) :
    Option (List (Char × Char) × List Char) := do
  let from' := if outside then others (charsOf first) else charsOf first
  if 1 < second.countP isEndless ∨ second.any (!mayReplace ·) then none
  let filler := fillerOf? second
  let second := settleEndless from'.length second
  let classes := !outside && second.any isClass
  let pieces (set : List Element) : List Piece := set.flatMap Element.pieces
  let (pairs, left, _) ←
    if classes then
      matchPieces (from'.length + (charsOf second).length + 2) (pieces first) (pieces second)
    else
      let into := charsOf second
      some (from'.zip into, (from'.drop into.length).map .char, [])
  let rest := left.flatMap fun | .char c => [c] | .letters u => lettersOf u
  let fill ← if rest = [] ∨ cut then some none
    else if second = [] then none
    else filler.map some
  let all := charsOf second ++ List.replicate (match fill with | some _ => rest.length | none => 0)
    (fill.getD ' ')
  let homogeneous := all.length = from'.length && all.all (· = all.headD ' ')
  if outside ∧ first.any isClass ∧ ¬ homogeneous then none
  match fill with
  | some c => some (pairs ++ rest.map fun a => (a, c), all)
  | none => some (pairs, all)

/-- The partner of a character: the last that it is paired with, or itself. -/
def partner (pairs : List (Char × Char)) (c : Char) : Char :=
  match pairs.reverse.find? (·.1 = c) with
  | some (_, d) => d
  | none => c

/-! ## The utility -/

/-- A text in which no two neighbours are the same character of a set. `last` is the character
before. -/
def squeeze (set : Char → Bool) (last : Option Char) : List Char → List Char
  | [] => []
  | c :: cs =>
      if last = some c ∧ set c then squeeze set last cs else c :: squeeze set (some c) cs

/-- A stream in which no two neighbours are the same character of a set. -/
def squeezed (set : Char → Bool) (s : Stream) : Stream :=
  match s.forever with
  | none => { s with text := squeeze set none s.text }
  | some c =>
      let text := squeeze set none (s.text ++ [c])
      if set c then { text } else { s with text }

/-- A stream without the characters of a set. -/
def without (set : Char → Bool) (s : Stream) : Stream :=
  { text := s.text.filter (!set ·), forever := s.forever.filter (!set ·) }

/-- The table of a function on characters. -/
def tabulate {α : Type} (f : Char → α) : Array α := (alphabet.map f).toArray

/-- What a table says about a character. -/
def look {α : Type} (table : Array α) (default : α) (c : Char) : α :=
  (table[c.toNat]?).getD default

/-- The switches of `tr`. -/
def switches : List Switch :=
  [⟨'c', "complement", false⟩, ⟨'C', "", false⟩, ⟨'d', "delete", false⟩,
    ⟨'s', "squeeze-repeats", false⟩, ⟨'t', "truncate-set1", false⟩, ⟨'A', "", false⟩]

end Exchange

open Exchange in
/-- Exchange characters, delete them or squeeze runs of them. -/
def tr : Utility := fun s args =>
  let made : Option Stream := do
    let (given, operands) ← readSwitches switches false args
    let sets ← operands.mapM readSet?
    let outside := isGiven given 'c' || isGiven given 'C'
    let deleting := isGiven given 'd'
    let squeezing := isGiven given 's'
    let first := sets.headD []
    if first.any isEndless then none
    let members (set : List Element) : Array Bool := tabulate (charsOf set).contains
    let inFirst := members first
    let chosen : Char → Bool := fun c => look inFirst false c != outside
    match sets with
    | [_] =>
        if deleting && !squeezing then some (without chosen s.input)
        else if squeezing && !deleting then some (squeezed chosen s.input)
        else none
    | [_, second] =>
        if deleting then
          if squeezing && !second.any isEndless then
            let inSecond := members second
            some (squeezed (look inSecond false) (without chosen s.input))
          else none
        else
          let (pairs, all) ← pairsOf? outside (isGiven given 't') first second
          let table := tabulate (partner pairs)
          let exchanged := s.input.map fun c => look table c c
          let inAll := tabulate all.contains
          if squeezing then some (squeezed (look inAll false) exchanged)
          else some exchanged
    | _ => none
  match made with
  | some output => { output, input := s.input.drop s.input.text.length }
  | none => misused s

end DiagServer.Posix
