/-!
# JavaChecker.Text.Pieces

A text cut at a separator. There is always one piece more than there are separators, so pieces at
the ends and between neighbouring separators may be empty. What is cut at a separator is cut on
both sides of it independently (`pieces_append`).
-/

namespace JavaChecker.Text

/-- The texts between the separators. -/
def pieces (separator : Char) : List Char → List (List Char)
  | [] => [[]]
  | c :: cs =>
    if c = separator then [] :: pieces separator cs
    else
      match pieces separator cs with
      | [] => [[c]]
      | p :: ps => (c :: p) :: ps

theorem pieces_ne_nil (separator : Char) (cs : List Char) : pieces separator cs ≠ [] := by
  cases cs with
  | nil => simp [pieces]
  | cons c cs =>
    unfold pieces
    split
    · simp
    · split <;> simp

@[simp] theorem pieces_separator_cons (separator : Char) (cs : List Char) :
    pieces separator (separator :: cs) = [] :: pieces separator cs := by
  simp [pieces]

/-- Around a separator the two sides are cut independently. -/
theorem pieces_append (separator : Char) (as bs : List Char) :
    pieces separator (as ++ separator :: bs) = pieces separator as ++ pieces separator bs := by
  induction as with
  | nil => simp [pieces]
  | cons c cs ih =>
    by_cases h : c = separator
    · simp [pieces, h, ih]
    · obtain ⟨p, ps, hp⟩ := List.exists_cons_of_ne_nil (pieces_ne_nil separator cs)
      simp [pieces, h, ih, hp]

end JavaChecker.Text
