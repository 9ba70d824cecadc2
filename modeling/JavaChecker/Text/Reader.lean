/-!
# JavaChecker.Text.Reader

Readers: functions that read something off the front of a text and give it with the text left
over, or refuse. The formats of this library are read with them.

Repetition is bounded by the length of the text, which is no restriction for a reader that takes
at least one character whenever it succeeds.
-/

namespace JavaChecker.Text

/-- A function that reads something off the front of a text. -/
abbrev Reader (α : Type) := List Char → Option (α × List Char)

namespace Reader

variable {α : Type}

/-- Read the given characters. -/
def word : List Char → Reader Unit
  | [], cs => some ((), cs)
  | _ :: _, [] => none
  | w :: ws, c :: cs => if w = c then word ws cs else none

/-- Read one character of a class. -/
def one (p : Char → Bool) : Reader Char
  | c :: cs => if p c then some (c, cs) else none
  | [] => none

/-- Read the characters of a class as far as they go, which may be none. -/
def run (p : Char → Bool) (cs : List Char) : List Char × List Char :=
  (cs.takeWhile p, cs.dropWhile p)

/-- Read at least one character of a class. -/
def run1 (p : Char → Bool) : Reader (List Char) := fun cs =>
  match run p cs with
  | ([], _) => none
  | found => some found

/-- Read up to a number of times. -/
def manyUpTo (p : Reader α) : Nat → List Char → List α × List Char
  | 0, cs => ([], cs)
  | n + 1, cs =>
    match p cs with
    | none => ([], cs)
    | some (a, rest) =>
      let (as, left) := manyUpTo p n rest
      (a :: as, left)

/-- Read as often as possible, which may be not at all. -/
def many (p : Reader α) (cs : List Char) : List α × List Char := manyUpTo p cs.length cs

/-- Read with the first of two readers that succeeds. -/
def orElse (p q : Reader α) : Reader α := fun cs =>
  match p cs with
  | some found => some found
  | none => q cs

/-- Read something if it is there. -/
def optional (p : Reader α) (cs : List Char) : Option α × List Char :=
  match p cs with
  | some (a, rest) => (some a, rest)
  | none => (none, cs)

end Reader

end JavaChecker.Text
