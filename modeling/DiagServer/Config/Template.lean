/-!
# Templates

A template is a text in which `${NAME}` stands for the value of a variable. Every text falls
apart in exactly one way into references, each behind a literal that opens no reference, a last
literal, and an unclosed rest, which is empty or opens a reference and never closes it. Filling
in puts a value in the place of each reference and leaves all else as it is; because the parts
are taken before any value is looked up, a value is never read as a template itself.
-/

namespace DiagServer.Config

/-- A reference to a variable, with the literal before it. -/
structure Reference where
  literal : List Char
  name : List Char
deriving Repr, DecidableEq

/-- A text as a template. -/
structure Template where
  references : List Reference
  literal : List Char
  unclosed : List Char
deriving Repr, DecidableEq

namespace Template

/-- A reference with this name, as it is written. -/
def written (name : List Char) : List Char := '$' :: '{' :: name ++ ['}']

/-- The text of a template. -/
def text (t : Template) : List Char :=
  (t.references.flatMap fun r => r.literal ++ written r.name) ++ t.literal ++ t.unclosed

/-- Cut a text at its first opening of a reference: what is before it, and what is behind it if
there is one. The characters in `seen` were read before, newest first. -/
def cutAtOpening (seen : List Char) : List Char → List Char × Option (List Char)
  | [] => (seen.reverse, none)
  | '$' :: '{' :: rest => (seen.reverse, some rest)
  | c :: rest => cutAtOpening (c :: seen) rest

/-- Cut a text at its first closing brace: what is before it, and what is behind it if there is
one. The characters in `seen` were read before, newest first. -/
def cutAtClosing (seen : List Char) : List Char → List Char × Option (List Char)
  | [] => (seen.reverse, none)
  | '}' :: rest => (seen.reverse, some rest)
  | c :: rest => cutAtClosing (c :: seen) rest

/-- What is behind an opening is shorter than the whole. -/
theorem length_of_cutAtOpening {seen cs before rest : List Char}
    (h : cutAtOpening seen cs = (before, some rest)) : rest.length < cs.length := by
  fun_induction cutAtOpening seen cs with
  | case1 => simp at h
  | case2 seen tail =>
    simp only [Prod.mk.injEq, Option.some.injEq] at h
    rw [← h.2]
    simp only [List.length_cons]
    omega
  | case3 seen c tail _ ih => have := ih h; simp only [List.length_cons]; omega

/-- What is behind a closing brace is shorter than the whole. -/
theorem length_of_cutAtClosing {seen cs before rest : List Char}
    (h : cutAtClosing seen cs = (before, some rest)) : rest.length < cs.length := by
  fun_induction cutAtClosing seen cs with
  | case1 => simp at h
  | case2 seen tail =>
    simp only [Prod.mk.injEq, Option.some.injEq] at h
    rw [← h.2]
    simp only [List.length_cons]
    omega
  | case3 seen c tail _ ih => have := ih h; simp only [List.length_cons]; omega

/-- The template of a text behind some references, newest first. -/
def ofCharsFrom (references : List Reference) (cs : List Char) : Template :=
  match _h : cutAtOpening [] cs with
  | (literal, none) => ⟨references.reverse, literal, []⟩
  | (literal, some rest) =>
      match _h' : cutAtClosing [] rest with
      | (_, none) => ⟨references.reverse, literal, '$' :: '{' :: rest⟩
      | (name, some rest') => ofCharsFrom (⟨literal, name⟩ :: references) rest'
termination_by cs.length
decreasing_by
  have := length_of_cutAtOpening _h
  have := length_of_cutAtClosing _h'
  omega

/-- The template of a text. -/
def ofChars (cs : List Char) : Template := ofCharsFrom [] cs

/-- What a reference is replaced with: the variable's value, or nothing if it has none or if the
reference names no variable. -/
def valueOf (lookup : String → Option String) (name : List Char) : List Char :=
  if name = [] then [] else ((lookup (String.ofList name)).getD "").toList

/-- A template with the values of its references. -/
def fill (lookup : String → Option String) (t : Template) : List Char :=
  (t.references.flatMap fun r => r.literal ++ valueOf lookup r.name) ++ t.literal ++ t.unclosed

/-- A text with the values of the variables it refers to. -/
def expand (lookup : String → Option String) (s : String) : String :=
  String.ofList ((ofChars s.toList).fill lookup)

end Template

end DiagServer.Config
