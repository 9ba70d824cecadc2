import JavaChecker.ClassTable.Basic

/-!
# JavaChecker.ClassTable.Render

Types in words, as messages show them. A class is called by its current name; an identifier
that nothing defines is called `<unknown#N>`. A list of types stands in parentheses, with `?` for
a type that is not known.
-/

namespace JavaChecker

namespace ClassTable

/-- A type in words. -/
def render (t : ClassTable) : Ty → String
  | .void => "void"
  | .primitive p => p.keyword
  | .null => "null"
  | .ofClass id =>
    match t.class? id with
    | some c => c.name
    | none => s!"<unknown#{id.raw.toNat}>"

/-- A list of types in words. -/
def renderTuple (t : ClassTable) (types : List (Option Ty)) : String :=
  "(" ++ ", ".intercalate (types.map fun ty? => ty?.elim "?" t.render) ++ ")"

end ClassTable

end JavaChecker
