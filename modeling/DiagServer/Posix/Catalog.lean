import DiagServer.Posix.Condition
import DiagServer.Posix.Echo
import DiagServer.Posix.Exchange

/-!
# The utilities by name

The utilities that stand as programs, and those that a shell runs by itself.
-/

namespace DiagServer.Posix

/-- The utility that stands as a program of this name. -/
def utility? (name : String) : Option Utility :=
  [("cat", cat), ("echo", echo .utility), ("false", idle 1), ("head", head),
    ("printf", print .utility), ("test", test), ("tr", tr), ("true", idle 0),
    ("[", bracket)].lookup name

/-- The utility that a shell runs by itself under this name. -/
def shellUtility? (name : List Char) : Option Utility :=
  ([("echo", echo .shell), ("false", idle 1), ("printf", print .shell), ("test", test),
    ("true", idle 0), ("[", bracket)].find? (·.1.toList = name)).map Prod.snd

end DiagServer.Posix
