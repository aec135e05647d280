/-!
# Lines of a text

A line ends at a line feed; one carriage return right before it belongs to the line end. What
follows the last line feed is a line of its own unless it is empty, and there a carriage return
at the end stays.
-/

namespace DiagServer.Text

/-- A line's characters from those read so far, newest first, less a carriage return at the
end. -/
def endLine : List Char → List Char
  | '\r' :: cs => cs.reverse
  | cs => cs.reverse

/-- The lines of a text, given the characters of the current line so far and the lines before
it, both newest first. -/
def linesFrom : List (List Char) → List Char → List Char → List (List Char)
  | done, [], [] => done.reverse
  | done, current, [] => (current.reverse :: done).reverse
  | done, current, c :: cs =>
      if c = '\n' then linesFrom (endLine current :: done) [] cs
      else linesFrom done (c :: current) cs

/-- The lines of a text. -/
def lines (cs : List Char) : List (List Char) := linesFrom [] [] cs

end DiagServer.Text
