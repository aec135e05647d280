import DiagServer.Posix.Printf
import DiagServer.Posix.Utility

/-!
# Printing arguments

Arguments are printed with a space between them and the end of a line behind them, or by a
format. The shell's own commands and the utilities differ in what counts as a switch and in the
escapes.
-/

namespace DiagServer.Posix

/-- Arguments with a space between them. -/
def joined (args : List (List Char)) : List Char := [' '].intercalate args

/-- The escape behind a backslash in what the utility `echo` prints. -/
def readEchoEscape : List Char → Escape
  | 'c' :: _ => .stop
  | 'e' :: cs => .text ['\x1B'] cs
  | 'x' :: cs =>
      match readHex cs with
      | .refused => .none
      | found => found
  | '0' :: cs => readOctal 3 cs
  | c :: cs =>
      if isOctal c then readOctal 3 (c :: cs)
      else
        match escapedLetter? c with
        | some d => .text [d] cs
        | none => .none
  | [] => .none

/-- Whether an argument is a switch of the utility `echo`. -/
def isEchoSwitch (arg : List Char) : Bool :=
  isSwitches arg && (arg.drop 1).all ("neE".toList.contains ·)

/-- What the arguments of `echo` are printed as. -/
def echoText (dialect : Dialect) (args : List (List Char)) : List Char :=
  let (silent, (text, ending)) : Bool × List Char × Ending :=
    match dialect with
    | .shell =>
        let silent := args.head? = some ['-', 'n']
        (silent, unescape .shell (joined (if silent then args.tail else args)))
    | .utility =>
        let letters := (args.takeWhile isEchoSwitch).flatMap List.tail
        let text := joined (args.dropWhile isEchoSwitch)
        let escapes := (letters.filter (· ≠ 'n')).getLast? = some 'e'
        (letters.contains 'n',
          if escapes then unescapeBy readEchoEscape text else (text, .complete))
  if silent ∨ ending ≠ .complete then text else text ++ ['\n']

/-- Print the arguments and the end of a line. -/
def echo (dialect : Dialect) : Utility := fun s args =>
  { output := { text := echoText dialect args }, input := s.input }

/-- Print arguments by a format. -/
def print (dialect : Dialect) : Utility := fun s args =>
  let first := args.headD []
  let illegal := dialect = .shell ∧ isSwitches first ∧ first ≠ ['-', '-']
  let refused (what : String) : Outcome :=
    { errors := [(0, [what.toList])], status := if dialect = .shell then 2 else 1
      input := s.input }
  if illegal then refused ("Illegal option -" ++ String.ofList ((first.drop 1).take 1))
  else
    match dropDashes args with
    | [] =>
        refused (if dialect = .shell then "usage: printf format [arg ...]" else "missing operand")
    | format :: args =>
        let p := printf dialect format args
        { output := { text := p.done.reverse }, errors := p.errors.reverse, status := p.status
          input := s.input }

end DiagServer.Posix
