import JavaChecker.Text.Reader

/-!
# JavaChecker.Toml.Trivia

What stands between the tokens of a TOML text: blanks, line breaks and comments.
-/

namespace JavaChecker.Toml

open Text (Reader)

/-- A blank within a line. -/
def isBlank (c : Char) : Bool := c = ' ' || c = '\t'

/-- The text without the blanks at its front. -/
def skipBlank (cs : List Char) : List Char := cs.dropWhile isBlank

/-- A line break. A carriage return is one only together with a line feed. -/
def lineBreak : Reader Unit
  | '\n' :: rest => some ((), rest)
  | '\r' :: '\n' :: rest => some ((), rest)
  | _ => none

/-- Whether a character may stand in a text of this format at all, outside line breaks: the tab is
the only control character that may. -/
def isText (c : Char) : Bool := c = '\t' || (0x20 ≤ c.toNat && c.toNat ≠ 0x7F)

/-- The text without the comment at its front, if there is one. -/
def skipComment (cs : List Char) : List Char :=
  match cs with
  | '#' :: rest => rest.dropWhile isText
  | _ => cs

/-- The end of a line: blanks, perhaps a comment, and a line break or the end of the text. -/
def lineEnd : Reader Unit := fun cs =>
  match skipComment (skipBlank cs) with
  | [] => some ((), [])
  | rest => lineBreak rest

/-- Blanks, perhaps a comment, and a line break. -/
def brokenLine : Reader Unit := fun cs => lineBreak (skipComment (skipBlank cs))

/-- The text without the blanks, comments and line breaks at its front. -/
def skipGap (cs : List Char) : List Char := skipBlank (Reader.many brokenLine cs).2

end JavaChecker.Toml
