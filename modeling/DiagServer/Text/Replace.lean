/-!
# Replacing a word in a text

Every occurrence of a word is replaced, from the left and without overlap. What is put in is not
looked at again.
-/

namespace DiagServer.Text

/-- Replace a word, once `skip` more characters, the rest of an occurrence, are passed over.
`done` holds the result so far, newest first. -/
def replaceFrom (word new : List Char) (skip : Nat) (done : List Char) : List Char → List Char
  | [] => done.reverse
  | c :: cs =>
      match skip with
      | skip + 1 => replaceFrom word new skip done cs
      | 0 =>
          if word.isPrefixOf (c :: cs) then
            replaceFrom word new (word.length - 1) (new.reverse ++ done) cs
          else replaceFrom word new 0 (c :: done) cs

/-- A text with `new` in the place of every occurrence of a word, which is not empty. -/
def replace (word new : List Char) (cs : List Char) : List Char :=
  replaceFrom word new 0 [] cs

end DiagServer.Text
