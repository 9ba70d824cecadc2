import JavaChecker.Log.Buffer
import JavaChecker.Proofs.Utf8
import Mathlib.Data.List.DropRight

/-!
# JavaChecker.Proofs.Buffer

The buffer as a window. A buffer forgets what it drops, so what it holds is described by all lines
that were ever pushed: `Buffer.Shows` says that the buffer is the end of that list, as long as there
is room. Every push and every write moves the window along (`Shows.push`, `Shows.write`), and so
does every run of them (`Shows.run`).

What a write adds is the non-empty lines of a text. Lines do not reach across a line feed, so texts
that end with one can be written in one piece or one after the other (`fullLines_append`).
-/

namespace JavaChecker

namespace Text

/-! ### Lines of texts that end with a line feed -/

theorem linesFrom_append (begun front back : List Char) :
    linesFrom begun (front ++ '\n' :: back) =
      linesFrom begun (front ++ ['\n']) ++ linesFrom [] back := by
  induction front generalizing begun with
  | nil => simp [linesFrom]
  | cons c front ih =>
      rw [List.cons_append, List.cons_append, linesFrom, linesFrom]
      by_cases hc : c = '\n'
      · rw [if_pos hc, if_pos hc, ih, List.cons_append]
      · rw [if_neg hc, if_neg hc, ih]

/-- A text whose last line is ended, if it has any. -/
def Ended (text : String) : Prop := text = "" ∨ ∃ body, text = body ++ "\n"

/-- The lines of a text that are not empty. -/
def fullLines (text : String) : List String :=
  ((lines text.toList).filter (!·.isEmpty)).map String.ofList

theorem Ended.append {front back : String} (hfront : Ended front) (hback : Ended back) :
    Ended (front ++ back) := by
  rcases hback with rfl | ⟨body, rfl⟩
  · rwa [String.append_empty]
  · exact .inr ⟨front ++ body, (String.append_assoc ..).symm⟩

theorem fullLines_append {front : String} (h : Ended front) (back : String) :
    fullLines (front ++ back) = fullLines front ++ fullLines back := by
  rcases h with rfl | ⟨body, rfl⟩
  · rw [String.empty_append]
    rfl
  · have hlines : lines (body ++ "\n" ++ back).toList =
        lines (body ++ "\n").toList ++ lines back.toList := by
      have hsplit := linesFrom_append [] body.toList back.toList
      simpa [lines, String.toList_append] using hsplit
    rw [fullLines, hlines, List.filter_append, List.map_append]
    rfl

end Text

namespace Log.Buffer

variable {b : Buffer} {k : Nat} {all : List String}

theorem linesOf_eq_fullLines (bytes : List UInt8) :
    linesOf bytes = Text.fullLines (String.ofList (Text.decodeLossy bytes)) := by
  rw [linesOf, Text.fullLines, String.toList_ofList]

theorem linesOf_encode (text : String) : linesOf (Text.encode text) = Text.fullLines text := by
  rw [linesOf_eq_fullLines, Text.decodeLossy_encode, String.ofList_toList]

/-! ### The window -/

/-- The buffer, made for `k` lines, holds the last of all the given lines. -/
structure Shows (b : Buffer) (k : Nat) (all : List String) : Prop where
  capacity_eq : b.capacity = max k 1
  lines_eq : b.lines = all.rtake (max k 1)

theorem shows_new (k : Nat) : Shows (new k) k [] where
  capacity_eq := capacity_new k
  lines_eq := by rw [lines_new, List.rtake_nil]

theorem Shows.length_lines (h : b.Shows k all) :
    b.lines.length = min (max k 1) all.length := by
  rw [h.lines_eq, List.rtake, List.length_drop]
  omega

/-- A new line moves the window by one, and drops a line exactly when there is no more room. -/
theorem Shows.push (h : b.Shows k all) (line : String) :
    (b.push line).Shows k (all ++ [line]) where
  capacity_eq := by rw [capacity_push, h.capacity_eq]
  lines_eq := by
    obtain ⟨n, hn⟩ : ∃ n, max k 1 = n + 1 := ⟨max k 1 - 1, by omega⟩
    have hlength := h.length_lines
    rw [hn] at hlength
    have hpush : (b.push line).lines =
        (if b.lines.length = b.capacity then b.lines.drop 1 else b.lines) ++ [line] := rfl
    rw [hpush, h.capacity_eq, hn, List.rtake_concat_succ]
    congr 1
    by_cases hfull : b.lines.length = n + 1
    · have hstart : all.length - (n + 1) + 1 = all.length - n := by omega
      rw [if_pos hfull, h.lines_eq, hn, List.rtake, List.rtake, List.drop_drop, hstart]
    · -- There is room left, so nothing was dropped yet.
      have hall : all.length ≤ n := by omega
      rw [if_neg hfull, h.lines_eq, hn, List.rtake, List.rtake, Nat.sub_eq_zero_of_le hall,
        Nat.sub_eq_zero_of_le (Nat.le_succ_of_le hall)]

theorem Shows.foldl_push (h : b.Shows k all) (new : List String) :
    (new.foldl Buffer.push b).Shows k (all ++ new) := by
  induction new generalizing b all with
  | nil => simpa using h
  | cons line new ih =>
      have hnext := ih (h.push line)
      rwa [List.append_assoc, List.singleton_append] at hnext

/-- A write moves the window by the lines it adds. -/
theorem Shows.write (h : b.Shows k all) (bytes : List UInt8) :
    (b.write bytes).Shows k (all ++ linesOf bytes) :=
  h.foldl_push (linesOf bytes)

/-! ### Runs -/

/-- A call that adds lines. -/
inductive Op where
  | push (line : String)
  | write (bytes : List UInt8)

/-- The lines that a call adds: the one given, or the non-empty lines of the text that the bytes are
read as. -/
def Op.added : Op → List String
  | .push line => [line]
  | .write bytes => Text.fullLines (String.ofList (Text.decodeLossy bytes))

def apply (b : Buffer) : Op → Buffer
  | .push line => b.push line
  | .write bytes => b.write bytes

/-- The buffer after calls, one after the other. -/
def run (b : Buffer) (ops : List Op) : Buffer := ops.foldl apply b

theorem Shows.apply (h : b.Shows k all) (op : Op) : (b.apply op).Shows k (all ++ op.added) := by
  cases op with
  | push line => exact h.push line
  | write bytes =>
      have hwrite := h.write bytes
      rwa [linesOf_eq_fullLines] at hwrite

theorem Shows.run (h : b.Shows k all) (ops : List Op) :
    (b.run ops).Shows k (all ++ ops.flatMap Op.added) := by
  induction ops generalizing b all with
  | nil => simpa [Buffer.run] using h
  | cons op ops ih =>
      have hrest := ih (h.apply op)
      rwa [List.append_assoc, ← List.flatMap_cons] at hrest

/-- What can be asked for is never more than the window. -/
theorem Shows.last_eq (h : b.Shows k all) (n : Nat) : b.last n = all.rtake (min n b.size) := by
  have hsize : b.size = min (max k 1) all.length := h.length_lines
  have hlines : b.lines = all.drop (all.length - max k 1) := h.lines_eq
  have hstart : all.length - max k 1 + (b.size - n) = all.length - min n b.size := by omega
  rw [List.rtake, ← hstart, ← List.drop_drop, ← hlines]
  rfl

/-- **A buffer is the most recent window**, after any calls and for any room asked for: it holds the
last of all lines added since it was made, as many as there is room for, in their order. There is
room for one line at least. -/
theorem holds_most_recent_lines (k : Nat) (ops : List Op) :
    let b := (new k).run ops
    let all := ops.flatMap Op.added
    b.lines = all.rtake (min (max k 1) all.length) ∧
    b.size = min (max k 1) all.length ∧
    b.size ≤ max k 1 ∧
    (b.isEmpty = true ↔ all = []) ∧
    ∀ n, b.last n = all.rtake (min n b.size) := by
  intro b all
  have hshows : b.Shows k all := (shows_new k).run ops
  have hsize : b.size = min (max k 1) all.length := hshows.length_lines
  refine ⟨?_, hsize, by omega, ?_, hshows.last_eq⟩
  · have hstart : all.length - max k 1 = all.length - min (max k 1) all.length := by omega
    rw [hshows.lines_eq, List.rtake, List.rtake, hstart]
  · -- There is room for a line, so a buffer to which one was added is not empty.
    rw [isEmpty, List.isEmpty_iff_length_eq_zero, ← List.length_eq_zero_iff]
    change b.size = 0 ↔ _
    omega

end Log.Buffer

end JavaChecker
