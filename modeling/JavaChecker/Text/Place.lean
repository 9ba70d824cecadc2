/-!
# JavaChecker.Text.Place

Places in a text, counted in the bytes of its encoding. A character may take several bytes, and a
count that ends inside of one is no place. A text is cut at a place into what stands before it and
after it (`splitAtByte?`).
-/

namespace JavaChecker.Text

/-- How many bytes the encoding of a text has. -/
def byteSize : List Char → Nat
  | [] => 0
  | c :: cs => c.utf8Size + byteSize cs

/-- What stands before and after so many bytes of a text. There is no answer for a count that ends
inside a character or beyond the text. -/
def splitAtByte? : Nat → List Char → Option (List Char × List Char)
  | 0, cs => some ([], cs)
  | _ + 1, [] => none
  | n + 1, c :: cs =>
    if n + 1 < c.utf8Size then none
    else (splitAtByte? (n + 1 - c.utf8Size) cs).map fun (before, after) => (c :: before, after)

end JavaChecker.Text
