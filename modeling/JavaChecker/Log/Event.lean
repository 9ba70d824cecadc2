import JavaChecker.Log.Level

/-!
# JavaChecker.Log.Event

Log events as data: a level, the target they are filed under, a message, and named fields in the
order in which a line shows them. What an operation logs is part of its result, as a list of
events; writing them somewhere is the business of the sinks.
-/

namespace JavaChecker.Log

/-- The value of a field. Text lines show the two kinds differently. -/
inductive FieldValue where
  /-- Written as it is. -/
  | shown (text : String)
  /-- Written between quotes, with escapes. -/
  | quoted (text : String)
deriving DecidableEq, Inhabited

/-- The text of a value, without any quotes. -/
def FieldValue.text : FieldValue → String
  | .shown s | .quoted s => s

/-- A named value of an event. -/
structure Field where
  name : String
  value : FieldValue
deriving DecidableEq, Inhabited

/-- Something that happened and may be logged. -/
structure Event where
  level : Level
  /-- What part of the program the event is filed under. -/
  target : String
  message : String
  fields : List Field := []
deriving DecidableEq, Inhabited

end JavaChecker.Log
