/-!
# JavaChecker.Log.Level

The five severities of a log event, and the thresholds a filter compares them with. A threshold
is a level or `off`; it lets a level through when the level is at least as severe.
-/

namespace JavaChecker.Log

/-- How severe an event is. -/
inductive Level where
  | trace
  | debug
  | info
  | warn
  | error
deriving DecidableEq, Inhabited

namespace Level

/-- All levels, the least severe first. -/
def all : List Level := [.trace, .debug, .info, .warn, .error]

/-- The word for a level in directives and requests. -/
def word : Level → String
  | .trace => "trace"
  | .debug => "debug"
  | .info => "info"
  | .warn => "warn"
  | .error => "error"

/-- The word for a level in a written line. -/
def label : Level → String
  | .trace => "TRACE"
  | .debug => "DEBUG"
  | .info => "INFO"
  | .warn => "WARN"
  | .error => "ERROR"

/-- How much a threshold at this level lets through: 1 for errors only, 5 for everything. -/
def verbosity : Level → Nat
  | .error => 1
  | .warn => 2
  | .info => 3
  | .debug => 4
  | .trace => 5

/-- The level with the given word. -/
def ofWord? (s : String) : Option Level := all.find? (·.word == s)

@[simp] theorem ofWord?_word (l : Level) : ofWord? l.word = some l := by
  cases l <;> rfl

end Level

/-- What a filter directive asks for: a level and everything more severe, or nothing. -/
inductive Threshold where
  | off
  | atLeast (level : Level)
deriving DecidableEq, Inhabited

/-- Whether an event of this level passes. -/
def Threshold.allows : Threshold → Level → Bool
  | .off, _ => false
  | .atLeast bound, level => level.verbosity ≤ bound.verbosity

@[simp] theorem Threshold.allows_off (l : Level) : Threshold.off.allows l = false := rfl

@[simp] theorem Threshold.allows_trace (l : Level) :
    (Threshold.atLeast .trace).allows l = true := by
  cases l <;> rfl

end JavaChecker.Log
