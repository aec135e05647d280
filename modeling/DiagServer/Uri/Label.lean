import DiagServer.Uri.Punycode
import DiagServer.Uri.Writing

/-!
# Labels

The dots of a host name separate its labels. A label may be written in ASCII for one of other
characters, which must need this and stand for themselves. No label starts with a mark, and an
invisible joiner must stand where it changes something: behind a letter that has lost its vowel or,
if it is the one that keeps letters apart, between two that would join. As soon as anything in a
name is written from the right, each of its labels must keep to one direction from end to end.
-/

namespace DiagServer.Uri

/-- The greatest length of a label that has to be written in ASCII. -/
def maxLabel : Nat := 1000

/-- The label that a text stands for. One of other characters must not be too long. -/
def label? : List Char → Option (List Char)
  | 'x' :: 'n' :: '-' :: '-' :: cs =>
      (Punycode.decode? cs).filter fun label =>
        label.any (fun c => 0x80 ≤ c.toNat)
          && label.all fun c => !isRefusedInHosts c && isNormal c
  | cs => if cs.all (fun c => c.toNat < 0x80) || cs.length ≤ maxLabel then some cs else none

/-- The character that keeps letters from joining. -/
def nonJoiner : Char := Char.ofNat 0x200C

/-- The character that makes letters join. -/
def joiner : Char := Char.ofNat 0x200D

/-- Whether the first of some characters that letters do not join over is in some ranges. -/
def leadsTo (ranges : List (Nat × Nat)) (cs : List Char) : Bool :=
  (cs.dropWhile isPassedInJoins).head?.any fun c => isWithin ranges c.toNat

/-- Whether every joiner stands where it may. `before` holds the characters before, newest first. -/
def joinersFit (before : List Char) : List Char → Bool
  | [] => true
  | c :: cs =>
      let bare := before.head?.any isVowelKiller
      let fits :=
        if c = nonJoiner then bare || (leadsTo joiningNext before && leadsTo joiningPrevious cs)
        else c ≠ joiner || bare
      fits && joinersFit (c :: before) cs

/-- Whether a label keeps to one direction. The first character tells which one it is; marks at the
end belong to what is before them. -/
def isDirected : List Direction → Bool
  | [] => true
  | first :: rest =>
      let rest := rest.reverse.dropWhile (· = .mark)
      let goesOn (letters : List Direction) : Bool :=
        rest.head?.all letters.contains
          && rest.all fun d => letters.contains d || d = .mark || d = .neutral
      match first with
      | .rightward => goesOn [.rightward, .number]
      | .leftward =>
          -- the digits of a label are all of one kind
          goesOn [.leftward, .number, .easternNumber]
            && !(rest.contains .number && rest.contains .easternNumber)
      | _ => false

/-- Whether something is written from the right. -/
def turns (ds : List Direction) : Bool := ds.contains .leftward || ds.contains .easternNumber

/-- Whether the labels of a name can stand in it. -/
def areRightLabels (labels : List (List Char)) : Bool :=
  let written := labels.map fun label => label.flatMap directions
  labels.all (fun label => !label.head?.any isMark && joinersFit [] label)
    && (!written.any turns || written.all isDirected)

end DiagServer.Uri
