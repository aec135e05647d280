/-!
# The room for what a program is given

A program gets its arguments and the variables of its environment as texts. Each is bounded in
length, and so is the room for all of them together with the path of the program; a program that
would get more than that is not started.
-/

namespace DiagServer.Host

/-- The longest text that a program can be given, in bytes. -/
def maxText : Nat := 131071

/-- The room for all texts, in bytes. -/
def room : Nat := 2097152

/-- What each text takes beside its bytes: its end, and where it stands. -/
def textCost : Nat := 9

/-- Whether a program with a path of so many bytes can be given texts of these lengths. -/
def hasRoomFor (path : Nat) (texts : List Nat) : Bool :=
  texts.all (· ≤ maxText) && texts.foldl (fun n length => n + length + textCost) (path + 1) ≤ room

end DiagServer.Host
