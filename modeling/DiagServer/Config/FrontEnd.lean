import DiagServer.Config.Template

/-!
# Settings for the front-end

The external compiler that does the parsing. Its name and its arguments may refer to variables
of the environment; each is filled in by itself, so no value can add or split an argument.
-/

namespace DiagServer.Config

/-- Settings for the front-end. -/
structure FrontEnd where
  /-- The name or the path of the compiler. -/
  command : String
  args : List String := []
deriving Repr, DecidableEq

/-- The settings with the values of the variables they refer to. -/
def FrontEnd.expand (lookup : String → Option String) (c : FrontEnd) : FrontEnd where
  command := Template.expand lookup c.command
  args := c.args.map (Template.expand lookup)

end DiagServer.Config
