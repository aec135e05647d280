import DiagServer.Posix.Switch

/-!
# Utilities

A utility is a function from its arguments, its input and the files to its output, what it
prints as an error, its status, and the input it leaves.
-/

namespace DiagServer.Posix

/-- What a utility leaves. -/
structure Outcome where
  output : Stream := {}
  /-- The complaints, by their parts, each with the length of the output before it. -/
  errors : List (Nat × List (List Char)) := []
  status : Nat := 0
  /-- The input that was not read. -/
  input : Stream := {}

/-- What a utility works on. -/
structure Setting where
  files : FileSystem
  input : Stream := {}

/-- A function from arguments to an outcome. -/
abbrev Utility := Setting → List (List Char) → Outcome

/-- The line for a complaint of a program. -/
def complaint (name : List Char) (parts : List (List Char)) : List Char :=
  name ++ parts.flatMap (fun part => ": ".toList ++ part) ++ ['\n']

/-- What was printed so far, and one more complaint; the status tells of it. -/
def Outcome.complain (o : Outcome) (parts : List (List Char)) : Outcome :=
  { o with errors := o.errors ++ [(o.output.text.length, parts)], status := 1 }

/-- The wording of a failure to open a file. -/
def reason : FileError → List Char
  | .notFound => "No such file or directory".toList
  | .notDirectory => "Not a directory".toList
  | .isDirectory => "Is a directory".toList
  | .nameTooLong => "File name too long".toList
  | .notUtf8 => "Invalid argument".toList

/-- A utility that was not called as it should be. -/
def misused (s : Setting) : Outcome := { status := 1, input := s.input }

/-- Whether a path is another name for the input. -/
def isInputName (path : List Char) : Bool :=
  ["/dev/stdin", "/dev/fd/0", "/proc/self/fd/0"].any (·.toList = path)

/-- The operands, or a dash for the input if there are none. -/
def orInput (operands : List (List Char)) : List (List Char) :=
  if operands = [] then [['-']] else operands

/-! ## Copying -/

/-- Add the contents of a file to what was copied; a dash is the input. -/
def copyOperand (s : Setting) (o : Outcome) (operand : List Char) : Outcome :=
  if operand = ['-'] ∨ isInputName operand then
    { o with output := o.output.append o.input, input := o.input.drop o.input.text.length }
  else
    match openInput s.files operand with
    | .ok stream => { o with output := o.output.append stream }
    | .error e => o.complain [operand, reason e]

/-- How a copy shows what cannot be seen otherwise. -/
structure Showing where
  ends : Bool := false
  tabs : Bool := false
  hidden : Bool := false
  numbers : Bool := false
  filledOnly : Bool := false
  squeezed : Bool := false
deriving DecidableEq

namespace Showing

/-- What the switches of a copy ask for. -/
def ofGiven (given : List Given) : Showing :=
  let has (letters : String) : Bool := letters.toList.any (isGiven given)
  { ends := has "AEe", tabs := has "ATt", hidden := has "Avet", numbers := has "nb"
    filledOnly := has "b", squeezed := has "s" }

/-- The character that shows a byte without its highest bit. -/
def caret (n : Nat) : List Char :=
  if n < 0x20 then ['^', Char.ofNat (n + 0x40)]
  else if n = 0x7F then ['^', '?']
  else [Char.ofNat n]

/-- How a character of a line is shown. -/
def char (w : Showing) (c : Char) : List Char :=
  if c = '\t' then (if w.tabs then ['^', 'I'] else [c])
  else if w.hidden then
    let n := c.toNat
    if n < 0x80 then caret n else ['M', '-'] ++ caret (n - 0x80)
  else [c]

/-- How a line is shown; the flag tells whether it has an end. -/
def line (w : Showing) (number : Option Nat) (cs : List Char) (ended : Bool) : List Char :=
  let front :=
    match number with
    | none => []
    | some n =>
        let digits := Nat.toDigits 10 n
        List.replicate (6 - digits.length) ' ' ++ digits ++ ['\t']
  let body :=
    if w.ends ∧ ended ∧ cs.getLast? = some '\r' then
      cs.dropLast.flatMap w.char ++ ['^', 'M']
    else cs.flatMap w.char
  front ++ body ++ (if ended then (if w.ends then ['$', '\n'] else ['\n']) else [])

/-- How lines are shown. `count` is the number of the last line with a number, `empty` tells
whether the line before was empty. The last line has no end. -/
def lines (w : Showing) (count : Nat) (empty : Bool) : List (List Char) → List Char
  | [] => []
  | [cs] => if cs = [] then [] else w.line (if w.numbers then some (count + 1) else none) cs false
  | cs :: rest =>
      if cs = [] ∧ empty ∧ w.squeezed then w.lines count true rest
      else
        let numbered := w.numbers && !(w.filledOnly && cs.isEmpty)
        let count := if numbered then count + 1 else count
        w.line (if numbered then some count else none) cs true
          ++ w.lines count cs.isEmpty rest

/-- How a text is shown. -/
def text (w : Showing) (cs : List Char) : List Char :=
  if w = {} then cs else w.lines 0 false (cs.splitOn '\n')

end Showing

/-- The switches of `cat`. -/
def catSwitches : List Switch :=
  [⟨'A', "show-all", false⟩, ⟨'b', "number-nonblank", false⟩, ⟨'e', "", false⟩,
    ⟨'E', "show-ends", false⟩, ⟨'n', "number", false⟩, ⟨'s', "squeeze-blank", false⟩,
    ⟨'t', "", false⟩, ⟨'T', "show-tabs", false⟩, ⟨'u', "", false⟩,
    ⟨'v', "show-nonprinting", false⟩]

/-- Copy files, one behind the other. -/
def cat : Utility := fun s args =>
  match readSwitches catSwitches true args with
  | none => misused s
  | some (given, operands) =>
      let o := (orInput operands).foldl (copyOperand s) { input := s.input }
      let w := Showing.ofGiven given
      { o with
        output := { o.output with text := w.text o.output.text }
        errors := o.errors.map fun (n, e) => ((w.text (o.output.text.take n)).length, e) }

/-! ## Beginnings -/

/-- How much of a stream is its beginning. -/
structure Measure where
  count : Nat
  /-- Whether lines are counted, or else characters. -/
  lines : Bool := true
  /-- Whether the count is what is left out at the end. -/
  fromEnd : Bool := false
  /-- What ends a line. -/
  ending : Char := '\n'
deriving Repr, DecidableEq

/-- The number of characters that are read at once when lines are counted. -/
def blockSize : Nat := 8192

/-- The number of characters in the first `n` lines. -/
def lengthOfLines (ending : Char) : Nat → Nat → List Char → Nat
  | _, count, [] => count
  | 0, count, _ :: _ => count
  | n + 1, count, c :: cs =>
      if c = ending then lengthOfLines ending n (count + 1) cs
      else lengthOfLines ending (n + 1) (count + 1) cs

/-- The number of lines of a text; the last one needs no end. -/
def numberOfLines (ending : Char) (cs : List Char) : Nat :=
  cs.countP (· = ending) + (if cs = [] ∨ cs.getLast? = some ending then 0 else 1)

/-- The beginning of a stream, and the number of characters read for it. -/
def Measure.beginning (m : Measure) (s : Stream) : List Char × Nat :=
  let all := s.text.length
  if m.fromEnd then
    let kept :=
      if m.lines then lengthOfLines m.ending (numberOfLines m.ending s.text - m.count) 0 s.text
      else all - m.count
    (s.text.take kept, if s.seekable then kept else all)
  else if m.lines then
    let length := lengthOfLines m.ending m.count 0 s.text
    let read := (length + blockSize - 1) / blockSize * blockSize
    (s.text.take length, if s.seekable then length else read)
  else (s.take m.count, m.count)

/-- What a letter behind a count multiplies it by. -/
def multiplier? (cs : List Char) : Option Nat :=
  if cs = [] then some 1
  else if cs = ['b'] then some 512
  else
    let power? (c : Char) : Option Nat :=
      ["kK", "mM", "G", "T", "P", "E", "Z", "Y", "R", "Q"].findIdx? (·.toList.contains c)
    match cs with
    | [c] => (power? c).map fun n => Nat.pow 1024 (n + 1)
    | [c, 'B'] => (power? c).map fun n => Nat.pow 1000 (n + 1)
    | [c, 'i', 'B'] => (power? c).map fun n => Nat.pow 1024 (n + 1)
    | _ => none

/-- The count that a text stands for, with a letter behind it or not. -/
def count? (cs : List Char) : Option Nat :=
  let cs := cs.dropWhile isSpace
  let cs := if cs.head? = some '+' then cs.drop 1 else cs
  let digits := cs.takeWhile Char.isDigit
  let rest := cs.dropWhile Char.isDigit
  if digits = [] ∧ rest = [] then none
  else (multiplier? rest).map fun m => (if digits = [] then 1 else ofDigits 10 digits) * m

/-- Read the count of a switch; a dash tells that it is left out at the end. -/
def Measure.counted? (m : Measure) (lines : Bool) (text : List Char) : Option Measure :=
  let (fromEnd, text) :=
    match text with
    | '-' :: text => (true, text)
    | text => (false, text)
  (count? text).map fun count => { m with count, lines, fromEnd }

/-- How beginnings are printed. -/
structure HeadPlan where
  measure : Measure := { count := 10 }
  /-- Whether names are printed; `none` leaves it to the number of files. -/
  named : Option Bool := none

/-- Take account of a switch. -/
def HeadPlan.add? (p : HeadPlan) (g : Given) : Option HeadPlan :=
  match g.1 with
  | 'n' => (p.measure.counted? true g.2).map fun measure => { p with measure }
  | 'c' => (p.measure.counted? false g.2).map fun measure => { p with measure }
  | 'q' => some { p with named := some false }
  | 'v' => some { p with named := some true }
  | _ => some { p with measure := { p.measure with ending := '\x00' } }

/-- The switches of `head`. -/
def headSwitches : List Switch :=
  [⟨'c', "bytes", true⟩, ⟨'n', "lines", true⟩, ⟨'q', "quiet", false⟩, ⟨'q', "silent", false⟩,
    ⟨'v', "verbose", false⟩, ⟨'z', "zero-terminated", false⟩]

/-- The switches that an old form stands for: a dash, a count, and letters. -/
def oldSwitches? (arg : List Char) : Option (List Given) :=
  match arg with
  | '-' :: c :: cs =>
      if c.isDigit then
        let digits := (c :: cs).takeWhile Char.isDigit
        let letters := (c :: cs).dropWhile Char.isDigit
        if letters.all ("bckmlqvz".toList.contains ·) then
          let factor := letters.reverse.find? ("bkm".toList.contains ·)
          let units := letters.reverse.find? ("bckml".toList.contains ·)
          let lines := units.all (· = 'l')
          let flags := letters.filter ("qvz".toList.contains ·)
          some ((if lines then 'n' else 'c', digits ++ factor.toList) :: flags.map fun c => (c, []))
        else none
      else none
  | _ => none

/-- Read the arguments of `head`. -/
def readHead (args : List (List Char)) : Option (HeadPlan × List (List Char)) := do
  let (old, args) :=
    match args with
    | [] => ([], [])
    | arg :: rest =>
        match oldSwitches? arg with
        | some given => (given, rest)
        | none => ([], arg :: rest)
  let (given, operands) ← readSwitches headSwitches true args
  some (← (old ++ given).foldlM HeadPlan.add? {}, operands)

/-- Print the beginning of a file, under its name if that is asked for. -/
def headOperand (s : Setting) (m : Measure) (named : Bool) (o : Outcome) (operand : List Char) :
    Outcome :=
  let title (name : List Char) : List Char :=
    if named then
      (if o.output.text = [] then [] else ['\n']) ++ "==> ".toList ++ name ++ " <==\n".toList
    else []
  let print (o : Outcome) (name text : List Char) : Outcome :=
    { o with output := o.output.append { text := title name ++ text } }
  if operand = ['-'] ∨ isInputName operand then
    let (text, count) := m.beginning o.input
    let name := if operand = ['-'] then "standard input".toList else operand
    print { o with input := o.input.drop count } name text
  else
    match openInput s.files operand with
    | .ok stream => print o operand (m.beginning stream).1
    | .error .isDirectory =>
        (print o operand []).complain
          ["error reading '".toList ++ operand ++ ['\''], reason .isDirectory]
    | .error e =>
        o.complain ["cannot open '".toList ++ operand ++ "' for reading".toList, reason e]

/-- Print the beginnings of files. -/
def head : Utility := fun s args =>
  match readHead args with
  | none => misused s
  | some (plan, operands) =>
      let named := plan.named.getD (1 < operands.length)
      (orInput operands).foldl (headOperand s plan.measure named) { input := s.input }

/-! ## Nothing but a status -/

/-- A utility that does nothing and has this status. -/
def idle (status : Nat) : Utility := fun s _ => { status, input := s.input }

end DiagServer.Posix
