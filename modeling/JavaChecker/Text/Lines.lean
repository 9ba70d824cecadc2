/-!
# JavaChecker.Text.Lines

The lines of a text. A line ends at a line feed or at the end of the text; a carriage return right
before the line feed belongs to the line break. A text that ends with a line break has no empty
line after it.
-/

namespace JavaChecker.Text

/-- A line that a line feed ends, given backwards. -/
def endedLine : List Char → List Char
  | '\r' :: cs => cs.reverse
  | cs => cs.reverse

/-- The lines of a text whose first line has begun already; its beginning is given backwards. -/
def linesFrom (begun : List Char) : List Char → List (List Char)
  | [] => if begun.isEmpty then [] else [begun.reverse]
  | c :: rest =>
    if c = '\n' then endedLine begun :: linesFrom [] rest else linesFrom (c :: begun) rest

/-- The lines of a text. -/
def lines (cs : List Char) : List (List Char) := linesFrom [] cs

end JavaChecker.Text
