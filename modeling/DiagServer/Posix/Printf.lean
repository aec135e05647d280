import DiagServer.Posix.Floating
import DiagServer.Text.Utf8

/-!
# Formatted output

A format is printed with its arguments in the places of its conversions, again and again until
the arguments are used up. In a format, and in arguments where a conversion asks for it, a
backslash starts an escape. There are two dialects, that of the shell's own command and that of
the utility: they differ in the escapes, in the conversions and in the precision of numbers.
-/

namespace DiagServer.Posix

/-- Who prints. -/
inductive Dialect where
  /-- The command of the shell. -/
  | shell
  /-- The utility. -/
  | utility
deriving Repr, DecidableEq

/-- The format of floating-point numbers. -/
def Dialect.format : Dialect → Decimal.Format
  | .shell => .double
  | .utility => .extended

/-! ## Escapes -/

/-- What is read behind a backslash. -/
inductive Escape where
  | text (cs rest : List Char)
  /-- Nothing is printed from here on. -/
  | stop
  /-- The escape is refused, and nothing is printed from here on. -/
  | refused
  /-- There is no such escape. -/
  | none

/-- Whether a character is an octal digit. -/
def isOctal (c : Char) : Bool := '0' ≤ c && c ≤ '7'

/-- The byte that a number leaves when the higher bits are cut off. -/
def byteOf (n : Nat) : Char := Char.ofNat (n % 256)

/-- Read at most so many octal digits as a byte. -/
def readOctal (count : Nat) (cs : List Char) : Escape :=
  let digits := (cs.take count).takeWhile isOctal
  .text [byteOf (ofDigits 8 digits)] (cs.drop digits.length)

/-- The character that a letter behind a backslash stands for. -/
def escapedLetter? (c : Char) : Option Char :=
  if c = 'a' then some '\x07'
  else if c = 'b' then some '\x08'
  else if c = 'f' then some '\x0C'
  else if c = 'n' then some '\n'
  else if c = 'r' then some '\r'
  else if c = 't' then some '\t'
  else if c = 'v' then some '\x0B'
  else if c = '\\' then some '\\'
  else none

/-- Read one or two hexadecimal digits as a byte. -/
def readHex (cs : List Char) : Escape :=
  let digits := (cs.take 2).takeWhile (isDigitIn 16)
  if digits = [] then .refused else .text [byteOf (ofDigits 16 digits)] (cs.drop digits.length)

/-- Read a code point in so many hexadecimal digits. Beyond ASCII it stays spelt out, in
capitals. -/
def readCodePoint (letter : Char) (count : Nat) (cs : List Char) : Escape :=
  let digits := (cs.take count).takeWhile (isDigitIn 16)
  let n := ofDigits 16 digits
  if digits.length < count ∨ (0xD800 ≤ n ∧ n ≤ 0xDFFF) then .refused
  else if n < 0x80 then .text [Char.ofNat n] (cs.drop count)
  else
    let ds := (Nat.toDigits 16 n).map Char.toUpper
    let (letter, least) := if n < 0x10000 then ('u', 4) else (letter, 8)
    .text ('\\' :: letter :: (List.replicate (least - ds.length) '0' ++ ds)) (cs.drop count)

/-- Read the escape behind a backslash in a format. -/
def readFormatEscape (dialect : Dialect) : List Char → Escape
  | [] => .none
  | c :: cs =>
      if isOctal c then readOctal 3 (c :: cs)
      else
        match escapedLetter? c with
        | some d => .text [d] cs
        | none =>
            if c = 'e' then .text ['\x1B'] cs
            else if dialect = .shell then .none
            else if c = 'c' then .stop
            else if c = '"' then .text ['"'] cs
            else if c = 'x' then readHex cs
            else if c = 'u' then readCodePoint 'u' 4 cs
            else if c = 'U' then readCodePoint 'U' 8 cs
            else .none

/-- Read the escape behind a backslash in an argument, where octal digits may follow a zero and
the output may be stopped. -/
def readArgEscape (dialect : Dialect) : List Char → Escape
  | 'c' :: _ => .stop
  | '0' :: cs => readOctal 3 cs
  | cs => readFormatEscape dialect cs

/-- How a text with escapes ends. -/
inductive Ending where
  | complete
  | stopped
  | refused
deriving Repr, DecidableEq

/-- A text with its escapes replaced, and how it ends. `readEscape` reads what is behind a
backslash, `done` holds the result so far, newest first, and the first number bounds the steps. -/
def unescapeFrom (readEscape : List Char → Escape) : Nat → List Char → List Char →
    List Char × Ending
  | 0, done, _ => (done.reverse, .complete)
  | _ + 1, done, [] => (done.reverse, .complete)
  | fuel + 1, done, c :: cs =>
      if c = '\\' then
        match readEscape cs with
        | .text text rest => unescapeFrom readEscape fuel (text.reverse ++ done) rest
        | .stop => (done.reverse, .stopped)
        | .refused => (done.reverse, .refused)
        | .none => unescapeFrom readEscape fuel ('\\' :: done) cs
      else unescapeFrom readEscape fuel (c :: done) cs

/-- A text with its escapes replaced, and how it ends. -/
def unescapeBy (readEscape : List Char → Escape) (cs : List Char) : List Char × Ending :=
  unescapeFrom readEscape (cs.length + 1) [] cs

/-- An argument with its escapes replaced, and how it ends. -/
def unescape (dialect : Dialect) (cs : List Char) : List Char × Ending :=
  unescapeBy (readArgEscape dialect) cs

/-! ## Layout -/

/-- How a conversion is laid out. -/
structure Layout where
  flags : List Char := []
  width : Nat := 0
  precision : Option Nat := none
deriving Repr, DecidableEq

namespace Layout

/-- Whether the text stands at the left of its field. -/
def left (l : Layout) : Bool := l.flags.contains '-'

/-- Whether a number is written in its other form. -/
def alternate (l : Layout) : Bool := l.flags.contains '#'

/-- Fill a text up to the width. -/
def pad (l : Layout) (cs : List Char) : List Char :=
  let gap := List.replicate (l.width - cs.length) ' '
  if l.left then cs ++ gap else gap ++ cs

/-- What stands before a signed number. -/
def sign (l : Layout) (negative : Bool) : List Char :=
  if negative then ['-']
  else if l.flags.contains '+' then ['+']
  else if l.flags.contains ' ' then [' ']
  else []

/-- Fill a number up to the width, with zeros behind what stands before it if that is asked for
and can be. -/
def fill (l : Layout) (zeros : Bool) (front body : List Char) : List Char :=
  if zeros ∧ l.flags.contains '0' ∧ ¬ l.left then
    front ++ List.replicate (l.width - front.length - body.length) '0' ++ body
  else l.pad (front ++ body)

/-- Lay out the digits of an integer; with a precision of zero, zero has none. -/
def integer (l : Layout) (front : List Char) (digits : List Char) : List Char :=
  match l.precision with
  | none => l.fill true front digits
  | some p =>
      let digits := if p = 0 ∧ digits = ['0'] then [] else digits
      l.fill false front (List.replicate (p - digits.length) '0' ++ digits)

/-- Lay out a signed integer. -/
def signed (l : Layout) (i : Int) : List Char :=
  l.integer (l.sign (i < 0)) (Nat.toDigits 10 i.natAbs)

/-- Lay out an unsigned integer by a conversion. -/
def unsigned (l : Layout) (kind : Char) (n : Nat) : List Char :=
  if kind = 'o' then
    let digits := Nat.toDigits 8 n
    if l.alternate then
      let least := if n = 0 then 1 else digits.length + 1
      match l.precision with
      | none =>
          l.integer [] (List.replicate (least - digits.length) '0' ++ digits)
      | some p => { l with precision := some (max p least) }.integer [] digits
    else l.integer [] digits
  else if kind = 'u' then l.integer [] (Nat.toDigits 10 n)
  else
    let digits := Nat.toDigits 16 n
    let front := if l.alternate ∧ n ≠ 0 then ['0', 'x'] else []
    if kind = 'x' then l.integer front digits
    else l.integer (front.map Char.toUpper) (digits.map Char.toUpper)

/-- Lay out a floating-point number by a conversion. -/
def floating (l : Layout) (f : Decimal.Format) (kind : Char) (x : Floating) : List Char :=
  let w := x.write f kind.toLower l.precision l.alternate
  let (front, body) :=
    if kind.isUpper then (w.front.map Char.toUpper, w.body.map Char.toUpper) else (w.front, w.body)
  l.fill w.fillable (l.sign x.isNegative ++ front) body

end Layout

/-! ## Arguments -/

/-- Why an argument is not what it should be. -/
inductive Misfit where
  /-- It does not start with a number. -/
  | noNumber
  /-- There is something behind the number. -/
  | trailing
  /-- The number is too large. -/
  | range
deriving DecidableEq

/-- The wording for an argument that is not what it should be. -/
def Misfit.message : Dialect → Misfit → String
  | .shell, .noNumber => "expected numeric value"
  | .shell, .trailing => "not completely converted"
  | .utility, .noNumber => "expected a numeric value"
  | .utility, .trailing => "value not completely converted"
  | _, .range => "Numerical result out of range"

/-- A value that was read from an argument, and what is wrong with the argument, if anything. -/
structure Argument (α : Type) where
  value : α
  misfit : Option Misfit := none

/-- What is wrong with an argument that has something behind its number. -/
def Misfit.ofRest (rest : List Char) : Option Misfit := if rest = [] then none else some trailing

/-- An argument that does not start with a number. -/
def Argument.unread {α : Type} (value : α) (cs : List Char) : Argument α :=
  { value, misfit := if cs = [] then none else some .noNumber }

/-- An argument whose number has to be in a range. -/
def Argument.inRange {α : Type} (a : Argument α) (fine : Bool) : Argument α :=
  { a with misfit := a.misfit <|> if fine then none else some .range }

/-- The code of the character behind a quote. -/
def quotedCode? (dialect : Dialect) (cs : List Char) : Option Nat :=
  match cs with
  | q :: rest =>
      if q = '"' ∨ q = '\'' then
        match rest with
        | c :: _ => some c.toNat
        | [] => if dialect = .shell then some 0 else none
      else none
  | [] => none

/-- The number in an argument; a missing one counts as zero. -/
def numeralOf (dialect : Dialect) (arg : Option (List Char)) : Argument Numeral :=
  match arg with
  | none => { value := ⟨false, 0, []⟩ }
  | some cs =>
      match quotedCode? dialect cs with
      | some n => { value := ⟨false, n, []⟩ }
      | none =>
          match readNumeral? cs with
          | some n => ⟨n, Misfit.ofRest n.rest⟩
          | none => .unread ⟨false, 0, []⟩ cs

/-- The floating-point number in an argument. -/
def floatingOf (dialect : Dialect) (arg : Option (List Char)) : Argument Floating :=
  let exactly (n : Nat) : Floating := Floating.ofScaled dialect.format false n false 0
  match arg with
  | none => { value := exactly 0 }
  | some cs =>
      match quotedCode? dialect cs with
      | some n => { value := exactly n }
      | none =>
          match Floating.read? dialect.format cs with
          | some (x, rest) => ⟨x, Misfit.ofRest rest⟩
          | none => .unread (exactly 0) cs

/-! ## Directives -/

/-- A directive: its layout, how its width and its precision are given by arguments, and its
conversion. -/
structure Directive where
  layout : Layout
  widthAsked : Bool := false
  precisionAsked : Bool := false
  /-- Whether there is a point. -/
  pointed : Bool := false
  /-- The letters for the size of a number. -/
  sized : Bool := false
  kind : Option Char
deriving Repr, DecidableEq

/-- Whether a character is a flag. -/
def isFlag (dialect : Dialect) (c : Char) : Bool :=
  "#-+ 0".toList.contains c || (dialect = .utility && (c = '\'' || c = 'I'))

/-- Whether a letter tells the size of a number. -/
def isSize (dialect : Dialect) (c : Char) : Bool :=
  dialect = .utility && "lLhjtz".toList.contains c

/-- Read a width or a precision: whether an argument gives it, and else the number. -/
def readExtent : List Char → Bool × Nat × List Char
  | '*' :: cs => (true, 0, cs)
  | cs =>
      let (n, rest) := readDigits 10 cs
      (false, n, rest)

/-- Read a directive behind its percent sign. -/
def readDirective (dialect : Dialect) (cs : List Char) : Directive × List Char :=
  let flags := cs.takeWhile (isFlag dialect)
  let (widthAsked, width, cs) := readExtent (cs.dropWhile (isFlag dialect))
  let (pointed, precisionAsked, precision, cs) :=
    match cs with
    | '.' :: cs =>
        let (asked, n, cs) := readExtent cs
        (true, asked, some n, cs)
    | cs => (false, false, none, cs)
  let sized := (cs.headD ' ') |> isSize dialect
  let cs := cs.dropWhile (isSize dialect)
  ({ layout := { flags, width, precision }
     widthAsked, precisionAsked, pointed, sized, kind := cs.head? }, cs.drop 1)

/-- The conversions to integers with a sign. -/
def signedKinds : List Char := ['d', 'i']

/-- The conversions to integers without a sign. -/
def unsignedKinds : List Char := ['o', 'u', 'x', 'X']

/-- The conversions to floating-point numbers. -/
def floatingKinds : List Char := ['a', 'A', 'e', 'E', 'f', 'F', 'g', 'G']

/-- Whether a conversion may have such a directive. -/
def Directive.isAllowed (d : Directive) (dialect : Dialect) (kind : Char) : Bool :=
  let known := signedKinds ++ unsignedKinds ++ floatingKinds ++ ['c', 's']
  match dialect with
  | .shell => known.contains kind || kind = 'b'
  | .utility =>
      let flags := d.layout.flags
      if kind = 'b' ∨ kind = 'q' then
        flags = [] && d.layout.width = 0 && !d.widthAsked && !d.pointed && !d.sized
      else
        known.contains kind
          && !((flags.contains '\'' || flags.contains 'I') && "aAceEosxX".toList.contains kind)
          && !(flags.contains '#' && "cdisu".toList.contains kind)
          && !(flags.contains '0' && "cs".toList.contains kind)
          && !(d.pointed && kind = 'c')

/-! ## Quoting for the shell -/

/-- Whether a character keeps its meaning in a shell without quotes. -/
def isPlainInShell (c : Char) : Bool := c.isAlphanum || "%+,-./:@_]".toList.contains c

/-- Whether a character keeps its meaning in a shell unless it comes first. -/
def isPlainInside (c : Char) : Bool := isPlainInShell c || c = '#' || c = '~'

/-- Whether a character can be shown. -/
def isShown (c : Char) : Bool := ' ' ≤ c && c ≤ '~'

/-- The escape for a character that cannot be shown. -/
def hiddenForm (c : Char) : List Char :=
  let letter (l : Char) : List Char := ['\\', l]
  if c = '\x07' then letter 'a'
  else if c = '\x08' then letter 'b'
  else if c = '\t' then letter 't'
  else if c = '\n' then letter 'n'
  else if c = '\x0B' then letter 'v'
  else if c = '\x0C' then letter 'f'
  else if c = '\r' then letter 'r'
  else
    let ds := Nat.toDigits 8 c.toNat
    '\\' :: (List.replicate (3 - ds.length) '0' ++ ds)

/-- A text up to its closing single quote; what cannot be shown stands in quotes behind a dollar
sign. The flag tells whether the latter are open. -/
def quoteHidden : Bool → List Char → List Char
  | _, [] => ['\'']
  | inHidden, c :: cs =>
      if c = '\'' then ['\'', '\\', '\'', '\''] ++ quoteHidden false cs
      else if isShown c then (if inHidden then ['\'', '\''] else []) ++ c :: quoteHidden false cs
      else (if inHidden then [] else ['\'', '$', '\'']) ++ hiddenForm c ++ quoteHidden true cs

/-- Whether a shell reads a text back as it is. -/
def isPlainText (cs : List Char) : Bool :=
  let isBrace (c : Char) : Bool := c = '{' || c = '}'
  match cs with
  | [] => false
  | [c] => isPlainInShell c
  | c :: rest =>
      (isPlainInShell c || isBrace c) && rest.all fun c => isPlainInside c || isBrace c

/-- Whether a text can stand in double quotes as it is. -/
def fitsDoubleQuotes (cs : List Char) : Bool :=
  let fits (c : Char) : Bool := isPlainInShell c || c = ' ' || c = '\''
  (isPlainInside (cs.headD ' ') || fits (cs.headD ' ')) && (cs.drop 1).all fits

/-- A text quoted so that a shell reads it back, if it needs that. A text with a single quote in it
that ends with what cannot be shown starts as if it went on behind such a character. -/
def quoteForShell (cs : List Char) : List Char :=
  if isPlainText cs then cs
  else if cs.contains '\'' && fitsDoubleQuotes cs then '"' :: (cs ++ ['"'])
  else '\'' :: quoteHidden (cs.contains '\'' && !(cs.getLast?.all isShown)) cs

/-! ## Formats -/

/-- Printing so far. -/
structure Printing where
  /-- The output, newest first. -/
  done : List Char := []
  /-- The arguments that are left. -/
  args : List (List Char)
  /-- Whether an argument was used. -/
  used : Bool := false
  status : Nat := 0
  /-- The complaints by their parts, each with the length of the output before it, newest first. -/
  errors : List (Nat × List (List Char)) := []
  /-- Whether nothing more is printed. -/
  ended : Bool := false

namespace Printing

/-- Print a text. -/
def add (p : Printing) (cs : List Char) : Printing := { p with done := cs.reverse ++ p.done }

/-- The next argument, and the state without it. -/
def next (p : Printing) : Option (List Char) × Printing :=
  match p.args with
  | [] => (none, p)
  | arg :: args => (some arg, { p with args, used := true })

/-- Complain. The shell prints complaints first. -/
def complain (dialect : Dialect) (p : Printing) (parts : List (List Char)) : Printing :=
  let place := if dialect = .shell then 0 else p.done.length
  { p with errors := (place, parts) :: p.errors }

/-- Take account of what is wrong with an argument, if anything. -/
def note {α : Type} (dialect : Dialect) (p : Printing) (text : List Char) (a : Argument α) :
    Printing :=
  match a.misfit with
  | none => p
  | some m =>
      let subject := if dialect = .shell then text else '\'' :: (text ++ ['\''])
      { p.complain dialect [subject, (m.message dialect).toList] with status := 1 }

/-- Give up. -/
def refuse (dialect : Dialect) (p : Printing) : Printing :=
  { p with ended := true, status := if dialect = .shell then 2 else 1 }

/-- Give up at a directive. -/
def refuseDirective (dialect : Dialect) (p : Printing) (text : List Char) (complete : Bool) :
    Printing :=
  let parts :=
    match dialect, complete with
    | .shell, true => [text, "invalid directive".toList]
    | .shell, false => ["missing format character".toList]
    | .utility, _ => [text, "invalid conversion specification".toList]
  refuse dialect (p.complain dialect parts)

/-- The largest width or precision. -/
def maxExtent : Nat := 0x7FFFFFFF

/-- Stop where an escape asks for it; for the utility that is a success whatever came before. -/
def stop (dialect : Dialect) (p : Printing) : Printing :=
  { p with ended := true, status := if dialect = .shell then p.status else 0 }

/-- Take a width, or else a precision, from the next argument, if that is to give it. The shell
cuts off the higher bits of a number, the utility refuses one that is too large. -/
def takeExtent (dialect : Dialect) (p : Printing) (isWidth asked : Bool) :
    Printing × Option Int :=
  if asked then
    let (arg, p) := p.next
    let n := numeralOf dialect arg
    let i := n.value.signed
    let p := p.note dialect (arg.getD []) (n.inRange n.value.isSigned)
    match dialect with
    | .shell => (p, some (i.bmod (2 * (maxExtent + 1))))
    | .utility =>
        let tooLarge := (maxExtent : Int) < i ∨ (isWidth ∧ i < -(maxExtent : Int) - 1)
        (if tooLarge then refuse dialect p else p, some i)
  else (p, none)

/-- Take the width and the precision that arguments give. -/
def extend (dialect : Dialect) (p : Printing) (d : Directive) : Printing × Layout :=
  let (p, width) := takeExtent dialect p true d.widthAsked
  let (p, precision) := takeExtent dialect p false d.precisionAsked
  let l := d.layout
  let l :=
    match width with
    | none => l
    | some w => { l with width := w.natAbs, flags := if w < 0 then '-' :: l.flags else l.flags }
  let l :=
    match precision with
    | none => l
    | some n => { l with precision := if n < 0 then none else some n.toNat }
  (p, l)

/-- Print the next argument by a conversion. -/
def convert (dialect : Dialect) (p : Printing) (l : Layout) (kind : Char) : Printing :=
  let missing := p.args = []
  let (arg, p) := p.next
  let text := arg.getD []
  let cut (cs : List Char) : List Char := l.pad (cs.take (l.precision.getD cs.length))
  if kind = 's' then p.add (cut text)
  else if kind = 'b' then
    if dialect = .utility ∧ missing then p
    else
      let (text, ending) := unescape dialect text
      let p := p.add (cut text)
      match ending with
      | .complete => p
      | .stopped => stop dialect p
      | .refused => refuse dialect p
  else if kind = 'q' then if missing then p else p.add (quoteForShell text)
  else if kind = 'c' then p.add (l.pad [text.headD '\x00'])
  else if signedKinds.contains kind then
    let n := numeralOf dialect arg
    (p.note dialect text (n.inRange n.value.isSigned)).add (l.signed n.value.signed)
  else if unsignedKinds.contains kind then
    let n := numeralOf dialect arg
    let p := p.note dialect text (n.inRange (n.value.magnitude < UInt64.size))
    p.add (l.unsigned kind n.value.unsigned)
  else
    let x := floatingOf dialect arg
    (p.note dialect text x).add (l.floating dialect.format kind x.value)

/-- Print a format once. The first argument bounds the number of steps. -/
def printOnce (dialect : Dialect) : Nat → Printing → List Char → Printing
  | 0, p, _ => p
  | _ + 1, p, [] => p
  | fuel + 1, p, '%' :: '%' :: cs => printOnce dialect fuel (p.add ['%']) cs
  | fuel + 1, p, '%' :: cs =>
      let (d, rest) := readDirective dialect cs
      let written := '%' :: cs.take (cs.length - rest.length)
      let cs := rest
      match d.kind with
      | none => refuseDirective dialect p written false
      | some kind =>
          let bad := refuseDirective dialect p written true
          if dialect = .utility ∧ ¬ d.isAllowed dialect kind then bad
          else
            let (p, l) := extend dialect p d
            let tooLarge := maxExtent < l.width || maxExtent < l.precision.getD 0
            if p.ended then p
            else if ¬ d.isAllowed dialect kind then refuseDirective dialect p written true
            else if tooLarge then
              if dialect = .shell ∨ d.widthAsked then refuse dialect p
              else printOnce dialect fuel { p.next.2 with status := 1 } cs
            else
              let p := convert dialect p l kind
              if p.ended then p else printOnce dialect fuel p cs
  | fuel + 1, p, '\\' :: cs =>
      match readFormatEscape dialect cs with
      | .text text rest => printOnce dialect fuel (p.add text) rest
      | .stop => stop dialect p
      | .refused => refuse dialect p
      | .none =>
          match dialect, cs with
          | .utility, c :: rest => printOnce dialect fuel (p.add ['\\', c]) rest
          | _, _ => printOnce dialect fuel (p.add ['\\']) cs
  | fuel + 1, p, c :: cs => printOnce dialect fuel (p.add [c]) cs

/-- Print a format until the arguments are used up. The first argument bounds the number of
passes. -/
def printAll (dialect : Dialect) (format : List Char) : Nat → Printing → Printing
  | 0, p => p
  | fuel + 1, p =>
      let p := printOnce dialect (format.length + 1) { p with used := false } format
      if p.ended ∨ ¬ p.used ∨ p.args = [] then p else printAll dialect format fuel p

end Printing

/-- Print a format with its arguments. -/
def printf (dialect : Dialect) (format : List Char) (args : List (List Char)) : Printing :=
  Printing.printAll dialect format (args.length + 1) { args }

end DiagServer.Posix
