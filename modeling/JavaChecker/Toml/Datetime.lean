import JavaChecker.Document.Basic
import JavaChecker.Text.Digits
import JavaChecker.Toml.Trivia

/-!
# JavaChecker.Toml.Datetime

Dates and times: a date, a time, or a date with a time, which may then have an offset. They are
checked against the calendar and kept as they are written.
-/

namespace JavaChecker.Toml

open Text (Reader)

/-- A number of two digits within bounds. -/
def twoDigits (low high : Nat) : Reader Nat := fun cs =>
  (Text.fixedDigits 10 2 cs).filter fun (n, _) => low ≤ n && n ≤ high

/-- Whether a year has a leap day. -/
def isLeapYear (year : Nat) : Bool := year % 4 = 0 && (year % 100 ≠ 0 || year % 400 = 0)

/-- The number of days of a month. -/
def daysIn (year month : Nat) : Nat :=
  if month = 2 then if isLeapYear year then 29 else 28
  else if month ∈ [4, 6, 9, 11] then 30
  else 31

/-- A date. -/
def date : Reader Unit := fun cs => do
  let (year, rest) ← Text.fixedDigits 10 4 cs
  let (_, rest) ← Reader.word ['-'] rest
  let (month, rest) ← twoDigits 1 12 rest
  let (_, rest) ← Reader.word ['-'] rest
  let (_, rest) ← twoDigits 1 (daysIn year month) rest
  some ((), rest)

/-- A fraction of a second. -/
def secondFraction : Reader (List Char)
  | '.' :: rest => Reader.run1 Char.isDigit rest
  | _ => none

/-- A time of day. A minute may have a leap second. -/
def time : Reader Unit := fun cs => do
  let (_, rest) ← twoDigits 0 23 cs
  let (_, rest) ← Reader.word [':'] rest
  let (_, rest) ← twoDigits 0 59 rest
  let (_, rest) ← Reader.word [':'] rest
  let (_, rest) ← twoDigits 0 60 rest
  some ((), (Reader.optional secondFraction rest).2)

/-- An offset from universal time. -/
def offset : Reader Unit
  | 'Z' :: rest | 'z' :: rest => some ((), rest)
  | c :: rest =>
    if c = '+' || c = '-' then do
      let (_, rest) ← twoDigits 0 23 rest
      let (_, rest) ← Reader.word [':'] rest
      let (_, rest) ← twoDigits 0 59 rest
      some ((), rest)
    else none
  | [] => none

/-- What may follow a date: a time, and perhaps an offset. -/
def timeOfDate : Reader Unit
  | c :: rest =>
    if c = 'T' || c = 't' || c = ' ' then do
      let (_, rest) ← time rest
      some ((), (Reader.optional offset rest).2)
    else none
  | [] => none

/-- A date, perhaps with a time. -/
def dateAndTime : Reader Unit := fun cs => do
  let (_, rest) ← date cs
  some ((), (Reader.optional timeOfDate rest).2)

/-- A date, a time, or both. -/
def datetime : Reader Document := fun cs => do
  let (_, rest) ← Reader.orElse dateAndTime time cs
  some (.datetime (String.ofList (cs.take (cs.length - rest.length))), rest)

end JavaChecker.Toml
