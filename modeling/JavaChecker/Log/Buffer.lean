import JavaChecker.Text.Lines
import JavaChecker.Text.Utf8

/-!
# JavaChecker.Log.Buffer

The most recent lines of the log, kept in memory. A buffer has room for a fixed number of lines,
at least one; a new line pushes out the oldest when the room is used up.

A buffer is also written to, in bytes: the text they stand for is cut into lines, and the lines
that are not empty are kept.
-/

namespace JavaChecker.Log

/-- The most recent lines, the oldest first. -/
structure Buffer where
  /-- How many lines there is room for. -/
  capacity : Nat
  lines : List String := []
deriving DecidableEq, Inhabited

namespace Buffer

/-- An empty buffer with room for the given number of lines, and for one if that is zero. -/
def new (capacity : Nat) : Buffer where
  capacity := max capacity 1

/-- How many lines the buffer holds. -/
def size (b : Buffer) : Nat := b.lines.length

/-- Whether the buffer holds no line. -/
def isEmpty (b : Buffer) : Bool := b.lines.isEmpty

/-- Add a line; if there is no room, the oldest line goes. -/
def push (b : Buffer) (line : String) : Buffer :=
  let kept := if b.lines.length = b.capacity then b.lines.drop 1 else b.lines
  { b with lines := kept ++ [line] }

/-- The lines that a write adds: those of the text, without the empty ones. -/
def linesOf (bytes : List UInt8) : List String :=
  ((Text.lines (Text.decodeLossy bytes)).filter (!·.isEmpty)).map String.ofList

/-- Write bytes. -/
def write (b : Buffer) (bytes : List UInt8) : Buffer := (linesOf bytes).foldl push b

/-- Write bytes, and report to the writer how many were taken: all of them. -/
def accept (b : Buffer) (bytes : List UInt8) : Buffer × Nat := (b.write bytes, bytes.length)

/-- The most recent lines, at most as many as asked for, the oldest first. -/
def last (b : Buffer) (n : Nat) : List String := b.lines.drop (b.lines.length - n)

@[simp] theorem capacity_push (b : Buffer) (line : String) :
    (b.push line).capacity = b.capacity := rfl

@[simp] theorem lines_new (k : Nat) : (new k).lines = [] := rfl

@[simp] theorem capacity_new (k : Nat) : (new k).capacity = max k 1 := rfl

end Buffer

end JavaChecker.Log
