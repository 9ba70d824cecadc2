import JavaChecker.Check.Error

/-!
# JavaChecker.Diagnostic

Diagnostics: complaints in the form in which they are handed to a user, with a severity, a code
and a text.
-/

namespace JavaChecker

/-- How serious a diagnostic is. -/
inductive Severity where
  | error
  | warning
  | info
deriving DecidableEq, Inhabited

/-- The word for a severity. -/
def Severity.word : Severity → String
  | .error => "error"
  | .warning => "warning"
  | .info => "info"

/-- A complaint for a user. -/
structure Diagnostic where
  severity : Severity
  code : String
  message : String
deriving DecidableEq, Inhabited

/-- A type error is always reported as an error. -/
def TypeError.diagnostic (e : TypeError) : Diagnostic where
  severity := .error
  code := e.code
  message := e.message

end JavaChecker
