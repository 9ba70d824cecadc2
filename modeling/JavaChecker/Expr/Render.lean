import JavaChecker.ClassTable.Render
import JavaChecker.Expr.Basic

/-!
# JavaChecker.Expr.Render

Expressions as source text, as the log shows them. No parentheses are added, so an assignment
used as a receiver reads like an assignment of the call.
-/

namespace JavaChecker

namespace Expr

mutual

/-- The source text of an expression; class names come from the table. -/
def render (t : ClassTable) : Expr → String
  | .var name _ => name
  | .lit text _ => text
  | .null => "null"
  | .assign name _ rhs => name ++ " = " ++ render t rhs
  | .call receiver method args =>
    render t receiver ++ "." ++ method ++ "(" ++ renderArgs t args ++ ")"
  | .new ty args => "new " ++ t.render ty ++ "(" ++ renderArgs t args ++ ")"

/-- The source text of arguments, separated by commas. -/
def renderArgs (t : ClassTable) : List Expr → String
  | [] => ""
  | [e] => render t e
  | e :: es => render t e ++ ", " ++ renderArgs t es

end

end Expr

end JavaChecker
