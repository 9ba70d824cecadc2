import JavaChecker.Json.Writer
import JavaChecker.Log.Event
import JavaChecker.Text.Quoted

/-!
# JavaChecker.Log.Line

Events as written lines. A text line has the time, the level, the target, the message and the
fields; a JSON line is one object with the same parts. Either ends with a line feed.

A message may hold line breaks, and a text line then takes up several lines; a JSON line never
does. In text lines the control characters that terminals obey are made visible in the message.
-/

namespace JavaChecker.Log

/-- How events are written. -/
inductive Format where
  | text
  | json
deriving DecidableEq, Inhabited

/-! ## Text lines -/

/-- A character of a message. The characters that terminals obey are written as escapes; line
breaks and tabs stand as they are. -/
def visibleChar (c : Char) : List Char :=
  let n := c.toNat
  if n = 0x1B ∨ n = 0x07 ∨ n = 0x08 ∨ n = 0x0C ∨ n = 0x7F then
    ['\\', 'x', Nat.digitChar (n / 16), Nat.digitChar (n % 16)]
  else if 0x80 ≤ n ∧ n ≤ 0x9F then ['\\', 'u', '\x7b'] ++ Text.hex n ++ ['\x7d']
  else [c]

/-- A message as text lines show it. -/
def visible (message : String) : String := String.ofList (message.toList.flatMap visibleChar)

/-- A field's value as text lines show it. -/
def FieldValue.render : FieldValue → String
  | .shown text => text
  | .quoted text => Text.quoted text

/-- A field as text lines show it, with the blank before it. -/
def Field.render (f : Field) : String := " " ++ f.name ++ "=" ++ f.value.render

/-- A level, filled up to five characters from the left. -/
def Level.padded (l : Level) : String :=
  String.ofList (List.replicate (5 - l.label.length) ' ') ++ l.label

namespace Event

/-- The text line of an event at a time. -/
def textLine (time : String) (e : Event) : String :=
  time ++ " " ++ e.level.padded ++ " " ++ e.target ++ ": " ++ visible e.message
    ++ String.join (e.fields.map Field.render) ++ "\n"

/-! ## JSON lines -/

/-- The fields of an event as a document; the message is the first of them. -/
def fieldsDocument (e : Event) : Document :=
  .table (("message", .string e.message) ::
    e.fields.map fun f => (f.name, .string f.value.text))

/-- An event at a time as a document. -/
def toDocument (time : String) (e : Event) : Document := .table [
  ("timestamp", .string time),
  ("level", .string e.level.label),
  ("fields", e.fieldsDocument),
  ("target", .string e.target)]

/-- The JSON line of an event at a time. -/
def jsonLine (time : String) (e : Event) : String := Json.text (e.toDocument time) ++ "\n"

/-- The line of an event at a time. -/
def line (format : Format) (time : String) (e : Event) : String :=
  match format with
  | .text => e.textLine time
  | .json => e.jsonLine time

end Event

end JavaChecker.Log
