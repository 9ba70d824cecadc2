import JavaChecker.Proofs.Buffer
import JavaChecker.Proofs.LossyText

/-!
# JavaChecker.Proofs.Chunks

Writing in one piece or in several. A write reads its bytes as a text, cuts the text into lines and
keeps those that are not empty. None of the three steps reaches across a line feed, so bytes that
end with one can be written ahead of the rest (`linesOf_append`), in as many chunks as one likes.

`HasLines` says what the lines of a text are, with nothing but the text before it: a line feed ends
a line, a carriage return belongs to the line break only right before a line feed, and what stands
behind the last line feed is a line if it is not empty.
-/

namespace JavaChecker

namespace Text

/-! ### The lines of a text -/

/-- The text consists of the lines, each of them ended by a line break, except that the last one may
be ended by the text. -/
inductive HasLines : List Char → List (List Char) → Prop where
  | nil : HasLines [] []
  | unended {line : List Char} : line ≠ [] → '\n' ∉ line → HasLines line [line]
  | lf {line rest : List Char} {lines : List (List Char)} :
      '\n' ∉ line → line.getLast? ≠ some '\r' → HasLines rest lines →
      HasLines (line ++ '\n' :: rest) (line :: lines)
  | crlf {line rest : List Char} {lines : List (List Char)} :
      '\n' ∉ line → HasLines rest lines → HasLines (line ++ '\r' :: '\n' :: rest) (line :: lines)

theorem linesFrom_of_not_mem {line : List Char} (h : '\n' ∉ line) (begun rest : List Char) :
    linesFrom begun (line ++ rest) = linesFrom (line.reverse ++ begun) rest := by
  induction line generalizing begun with
  | nil => rfl
  | cons c line ih =>
      rw [List.mem_cons, not_or] at h
      rw [List.cons_append, linesFrom, if_neg (Ne.symm h.1), ih h.2]
      simp

theorem endedLine_reverse {line : List Char} (h : line.getLast? ≠ some '\r') :
    endedLine line.reverse = line := by
  rw [← List.head?_reverse] at h
  unfold endedLine
  split
  · next cs heq =>
      rw [heq] at h
      exact absurd rfl h
  · exact List.reverse_reverse line

theorem HasLines.eq_lines {text : List Char} {ls : List (List Char)} (h : HasLines text ls) :
    ls = lines text := by
  induction h with
  | nil => rfl
  | @unended line hne hmem =>
      have hlines := linesFrom_of_not_mem hmem [] []
      rw [List.append_nil, List.append_nil] at hlines
      rw [lines, hlines]
      simp [linesFrom, hne]
  | lf hmem hlast _ ih =>
      rw [lines, linesFrom_of_not_mem hmem, List.append_nil, linesFrom, if_pos rfl,
        endedLine_reverse hlast, ih, lines]
  | @crlf line rest ls hmem _ ih =>
      have hmem' : '\n' ∉ line ++ ['\r'] := by simp [hmem]
      rw [lines, List.append_cons, linesFrom_of_not_mem hmem', List.append_nil, linesFrom,
        if_pos rfl, ih, lines]
      simp [endedLine]

theorem hasLines_lines (text : List Char) : HasLines text (lines text) := by
  -- Induction on the length, since what is left behind a line is no direct part of the text.
  induction hn : text.length using Nat.strongRecOn generalizing text with
  | ind n ih =>
      suffices h : ∃ ls, HasLines text ls by
        obtain ⟨ls, hls⟩ := h
        rwa [← hls.eq_lines]
      by_cases hmem : '\n' ∈ text
      · obtain ⟨line, rest, rfl, hline⟩ := List.eq_append_cons_of_mem hmem
        have hrest := ih rest.length (by simp at hn; omega) rest rfl
        by_cases hlast : line.getLast? = some '\r'
        · obtain ⟨front, rfl⟩ := List.getLast?_eq_some_iff.mp hlast
          rw [List.append_assoc, List.singleton_append]
          exact ⟨_, .crlf (fun h => hline (List.mem_append_left _ h)) hrest⟩
        · exact ⟨_, .lf hline hlast hrest⟩
      · by_cases hnil : text = []
        · exact ⟨[], hnil ▸ .nil⟩
        · exact ⟨[text], .unended hnil hmem⟩

theorem HasLines.newline_not_mem {text : List Char} {ls : List (List Char)} (h : HasLines text ls) :
    ∀ line ∈ ls, '\n' ∉ line := by
  induction h with
  | nil => simp
  | unended _ hmem => simpa using hmem
  | lf hmem _ _ ih => exact List.forall_mem_cons.mpr ⟨hmem, ih⟩
  | crlf hmem _ ih => exact List.forall_mem_cons.mpr ⟨hmem, ih⟩

/-! ### Bytes that end with a line feed -/

/-- There are no bytes, or the last one is that of a line feed. -/
def EndsLine (bytes : List UInt8) : Prop := bytes = [] ∨ bytes.getLast? = some 0x0A

theorem decodeLossy_append {front : List UInt8} (h : EndsLine front) (back : List UInt8) :
    decodeLossy (front ++ back) = decodeLossy front ++ decodeLossy back := by
  rcases h with rfl | hlast
  · rw [List.nil_append, decodeLossy_nil, List.nil_append]
  · obtain ⟨body, rfl⟩ := List.getLast?_eq_some_iff.mp hlast
    rw [decodeLossy_append_newline body [], List.append_assoc, List.singleton_append,
      decodeLossy_append_newline, decodeLossy_nil, List.append_assoc, List.singleton_append]

theorem ended_decodeLossy {bytes : List UInt8} (h : EndsLine bytes) :
    Ended (String.ofList (decodeLossy bytes)) := by
  rcases h with rfl | hlast
  · exact .inl (by rw [decodeLossy_nil, String.ofList_nil])
  · obtain ⟨body, rfl⟩ := List.getLast?_eq_some_iff.mp hlast
    rw [decodeLossy_append_newline, decodeLossy_nil, String.ofList_append]
    exact .inr ⟨_, rfl⟩

end Text

namespace Log.Buffer

/-! ### What a write adds -/

theorem linesOf_append {front : List UInt8} (h : Text.EndsLine front) (back : List UInt8) :
    linesOf (front ++ back) = linesOf front ++ linesOf back := by
  rw [linesOf_eq_fullLines, Text.decodeLossy_append h, String.ofList_append,
    Text.fullLines_append (Text.ended_decodeLossy h), ← linesOf_eq_fullLines,
    ← linesOf_eq_fullLines]

theorem write_append (b : Buffer) {front : List UInt8} (h : Text.EndsLine front)
    (back : List UInt8) : b.write (front ++ back) = (b.write front).write back := by
  rw [write, linesOf_append h, List.foldl_append, write, write]

theorem linesOf_eq_of_reading {bytes : List UInt8} {text : List Char} {lines : List (List Char)}
    (htext : Text.Lossy bytes text) (hlines : Text.HasLines text lines) :
    linesOf bytes = (lines.filter (!·.isEmpty)).map String.ofList := by
  rw [linesOf, ← htext.eq_decodeLossy, ← hlines.eq_lines]

theorem full_of_mem_linesOf {bytes : List UInt8} {line : String} (h : line ∈ linesOf bytes) :
    line ≠ "" ∧ '\n' ∉ line.toList := by
  obtain ⟨cs, hcs, rfl⟩ := List.mem_map.mp h
  obtain ⟨hmem, hfull⟩ := List.mem_filter.mp hcs
  rw [String.toList_ofList]
  refine ⟨?_, (Text.hasLines_lines _).newline_not_mem cs hmem⟩
  intro hempty
  have hcs : cs = [] := by simpa using congrArg String.toList hempty
  simp [hcs] at hfull

/-! ### Chunks -/

/-- Write chunks one after the other, and add up the reported numbers of bytes. -/
def acceptAll (b : Buffer) : List (List UInt8) → Buffer × Nat
  | [] => (b, 0)
  | chunk :: chunks =>
    let first := b.accept chunk
    let others := first.1.acceptAll chunks
    (others.1, first.2 + others.2)

/-- **Any chunking at line feeds** comes to one write of all bytes. -/
theorem acceptAll_eq_accept (b : Buffer) {chunks : List (List UInt8)}
    (h : ∀ chunk ∈ chunks, Text.EndsLine chunk) (last : List UInt8) :
    b.acceptAll (chunks ++ [last]) = b.accept (chunks ++ [last]).flatten := by
  induction chunks generalizing b with
  | nil => simp [acceptAll, accept]
  | cons chunk chunks ih =>
      rw [List.forall_mem_cons] at h
      simp only [List.cons_append, acceptAll, ih _ h.2, accept, List.flatten_cons,
        List.length_append, write_append b h.1]

/-- **Writing in chunks cut after line feeds equals writing at once**, for all bytes and whatever
the buffer holds: the buffer is the same, and the reported numbers add up to that of all bytes. A
write adds the non-empty lines of the one text that the bytes stand for, so no line it adds is empty
or has a line feed in it. -/
theorem writing_in_chunks_equals_writing_at_once (b : Buffer) :
    (∀ front back : List UInt8, Text.EndsLine front →
      ((b.accept front).1.accept back).1 = (b.accept (front ++ back)).1 ∧
      (b.accept front).2 + ((b.accept front).1.accept back).2 = front.length + back.length) ∧
    (∀ (chunks : List (List UInt8)) (last : List UInt8),
      (∀ chunk ∈ chunks, Text.EndsLine chunk) →
      b.acceptAll (chunks ++ [last]) = b.accept (chunks ++ [last]).flatten) ∧
    (∀ bytes : List UInt8, ∃ text lines, Text.Lossy bytes text ∧ Text.HasLines text lines) ∧
    (∀ (bytes : List UInt8) (text : List Char) (lines : List (List Char)),
      Text.Lossy bytes text → Text.HasLines text lines →
      (b.accept bytes).1 = ((lines.filter (!·.isEmpty)).map String.ofList).foldl push b ∧
      (b.accept bytes).2 = bytes.length ∧
      ∀ line ∈ (lines.filter (!·.isEmpty)).map String.ofList, line ≠ "" ∧ '\n' ∉ line.toList) := by
  refine ⟨?_, ?_, ?_, ?_⟩
  · intro front back h
    exact ⟨(b.write_append h back).symm, rfl⟩
  · intro chunks last h
    exact b.acceptAll_eq_accept h last
  · intro bytes
    exact ⟨_, _, Text.lossy_decodeLossy bytes, Text.hasLines_lines _⟩
  · intro bytes text lines htext hlines
    rw [← linesOf_eq_of_reading htext hlines]
    exact ⟨rfl, rfl, fun line => full_of_mem_linesOf⟩

/-- An encoding that is cut off by a line feed, and a carriage return that no line feed follows: the
two lines can be written one after the other. -/
theorem cut_encoding_written_ahead :
    let front : List UInt8 := [0x61, 0xE2, 0x82, 0x0A]
    let back : List UInt8 := [0x62, 0x0D]
    Text.EndsLine front ∧
    (((new 1).accept front).1.accept back).1 = ((new 1).accept (front ++ back)).1 ∧
    ((new 1).accept front).2 + (((new 1).accept front).1.accept back).2 = 6 := by
  intro front back
  have hends : Text.EndsLine front := .inr rfl
  exact ⟨hends, (writing_in_chunks_equals_writing_at_once (new 1)).1 front back hends⟩

end Log.Buffer

end JavaChecker
