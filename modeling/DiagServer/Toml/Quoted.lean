/-!
# Quoted TOML texts

A text stands between quotes of one of two kinds, either one on its line or, between three
quotes at each side, over several lines. Between double quotes a backslash starts an escape;
between single quotes every character stands for itself. No text holds a control character but
the tab, save the ends of its lines.

Everywhere in a document a carriage return stands before a line feed only. So readers take it
for a blank.
-/

namespace DiagServer.Toml

/-- Whether a character may stand in a text or in a comment as it is. -/
def isPrintable (c : Char) : Bool := c = '\t' || (0x20 ≤ c.toNat && c.toNat ≠ 0x7F)

/-- Whether a character is a blank within a line. -/
def isBlank (c : Char) : Bool := c = ' ' || c = '\t' || c = '\r'

/-- The value of a hexadecimal digit. -/
def hexValue? (c : Char) : Option Nat :=
  let n := c.toNat
  if 0x30 ≤ n ∧ n ≤ 0x39 then some (n - 0x30)
  else if 0x41 ≤ n ∧ n ≤ 0x46 then some (n - 0x41 + 10)
  else if 0x61 ≤ n ∧ n ≤ 0x66 then some (n - 0x61 + 10)
  else none

/-- The number that hexadecimal digits stand for. -/
def hexNumber? (digits : List Char) : Option Nat :=
  digits.foldlM (fun value c => (hexValue? c).map (value * 16 + ·)) 0

/-- The character that is escaped by its number in this many hexadecimal digits. -/
def readCoded (count : Nat) (cs : List Char) : Option (Char × List Char) := do
  let n ← hexNumber? (cs.take count)
  if (cs.take count).length = count ∧ n.isValidChar then some (Char.ofNat n, cs.drop count)
  else none

/-- The character that a letter behind a backslash stands for. -/
def escaped? (c : Char) : Option Char :=
  if c = 'b' then some '\x08'
  else if c = 't' then some '\t'
  else if c = 'n' then some '\n'
  else if c = 'f' then some '\x0C'
  else if c = 'r' then some '\r'
  else if c = 'e' then some '\x1B'
  else if c = '"' then some '"'
  else if c = '\\' then some '\\'
  else none

/-- Read the escape behind a backslash. -/
def readEscape : List Char → Option (Char × List Char)
  | [] => none
  | c :: rest =>
      if c = 'x' then readCoded 2 rest
      else if c = 'u' then readCoded 4 rest
      else if c = 'U' then readCoded 8 rest
      else (escaped? c).map (·, rest)

/-- An escape takes at least one character. -/
theorem length_of_readEscape {cs rest : List Char} {c : Char}
    (h : readEscape cs = some (c, rest)) : rest.length < cs.length := by
  have coded (count : Nat) (tail : List Char) (h : readCoded count tail = some (c, rest)) :
      rest.length ≤ tail.length := by
    simp only [readCoded, Option.bind_eq_bind, Option.bind_eq_some_iff] at h
    obtain ⟨n, _, h⟩ := h
    split at h
    · simp only [Option.some.injEq, Prod.mk.injEq] at h
      rw [← h.2, List.length_drop]
      omega
    · simp at h
  cases cs with
  | nil => simp [readEscape] at h
  | cons d tail =>
      simp only [readEscape] at h
      simp only [List.length_cons]
      split at h
      · have := coded _ _ h; omega
      · split at h
        · have := coded _ _ h; omega
        · split at h
          · have := coded _ _ h; omega
          · simp only [Option.map_eq_some_iff, Prod.mk.injEq] at h
            obtain ⟨_, _, _, h⟩ := h
            rw [h]; omega

/-- How a text is written. -/
structure Style where
  quote : Char
  /-- Whether a backslash starts an escape. -/
  escapes : Bool
deriving Repr, DecidableEq

/-- Between double quotes. -/
def Style.basic : Style := ⟨'"', true⟩

/-- Between single quotes. -/
def Style.literal : Style := ⟨'\'', false⟩

/-- Read a text on one line up to its closing quote, behind the characters in `seen`, newest
first. -/
def readLine (style : Style) (seen : List Char) (cs : List Char) :
    Option (List Char × List Char) :=
  match cs with
  | [] => none
  | c :: rest =>
      if c = style.quote then some (seen.reverse, rest)
      else if c = '\\' ∧ style.escapes then
        match _h : readEscape rest with
        | none => none
        | some (d, rest') => readLine style (d :: seen) rest'
      else if isPrintable c then readLine style (c :: seen) rest
      else none
termination_by cs.length
decreasing_by
  · have := length_of_readEscape _h; simp only [List.length_cons]; omega
  · simp

/-- The number of quotes at the front, five at most. -/
def countQuotes (quote : Char) (cs : List Char) : Nat :=
  ((cs.take 5).takeWhile (· = quote)).length

/-- What is left behind blanks and the ends of lines. -/
def skipLines (cs : List Char) : List Char := cs.dropWhile fun c => isBlank c || c = '\n'

/-- If nothing but blanks is left of the line, what is left behind its end and the blanks and
empty lines below. -/
def joinLine? (cs : List Char) : Option (List Char) :=
  match cs.dropWhile isBlank with
  | '\n' :: rest => some (skipLines rest)
  | _ => none

/-- Joining takes the end of a line at least. -/
theorem length_of_joinLine {cs rest : List Char} (h : joinLine? cs = some rest) :
    rest.length < cs.length := by
  unfold joinLine? at h
  have hle := (List.dropWhile_suffix isBlank (l := cs)).length_le
  split at h
  · rename_i tail heq
    have := (List.dropWhile_suffix (fun c => isBlank c || c = '\n') (l := tail)).length_le
    simp only [Option.some.injEq, skipLines] at h
    rw [heq, List.length_cons] at hle
    rw [← h]
    omega
  · simp at h

/-- Read a text over several lines up to its closing quotes, behind the characters in `seen`,
newest first. Three quotes close it; one or two right before those are its own. -/
def readBlock (style : Style) (seen : List Char) (cs : List Char) :
    Option (List Char × List Char) :=
  match cs with
  | [] => none
  | c :: rest =>
      if 3 ≤ countQuotes style.quote (c :: rest) then
        let own := countQuotes style.quote (c :: rest) - 3
        some (seen.reverse ++ List.replicate own style.quote, rest.drop (own + 2))
      else if c = '\\' ∧ style.escapes then
        match _h : joinLine? rest with
        | some rest' => readBlock style seen rest'
        | none =>
            match _h' : readEscape rest with
            | none => none
            | some (d, rest') => readBlock style (d :: seen) rest'
      else if isPrintable c ∨ c = '\n' ∨ c = '\r' then readBlock style (c :: seen) rest
      else none
termination_by cs.length
decreasing_by
  · have := length_of_joinLine _h; simp only [List.length_cons]; omega
  · have := length_of_readEscape _h'; simp only [List.length_cons]; omega
  · simp

/-- A text without a line end at its start. -/
def dropLineEnd : List Char → List Char
  | '\r' :: '\n' :: cs => cs
  | '\n' :: cs => cs
  | cs => cs

/-- Read a text from its opening quotes, with what is between them. -/
def readText (cs : List Char) : Option (String × List Char) :=
  let result :=
    match cs with
    | '"' :: '"' :: '"' :: rest => readBlock .basic [] (dropLineEnd rest)
    | '\'' :: '\'' :: '\'' :: rest => readBlock .literal [] (dropLineEnd rest)
    | '"' :: rest => readLine .basic [] rest
    | '\'' :: rest => readLine .literal [] rest
    | _ => none
  result.map fun (text, rest) => (String.ofList text, rest)

end DiagServer.Toml
