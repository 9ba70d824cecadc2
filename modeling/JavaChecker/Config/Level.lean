import JavaChecker.Config.Basic
import JavaChecker.Log.FilterLanguage
import JavaChecker.Text.Blank

/-!
# JavaChecker.Config.Level

From the configured level and the environment to the filter of the log.

The level may be a level word, in any case and with blanks around it, or a list of directives. The
environment may add directives, which then count more than the configured ones. A half that holds
something else than directives is left out, and with neither the filter lets `info` through. There
is no filter at all only when the reading of a half breaks off.
-/

namespace JavaChecker

open Log (FilterLanguage FilterError)

namespace LoggingConfig

/-- The level that stands for a blank one. -/
def defaultLevel : String := "info"

/-- A configured level as filter text: a level word in lower case, `warn` for `warning`, or the
directives without the blanks around them. -/
def normalizeLevel (level : String) : String :=
  let trimmed := Text.trim level
  if trimmed = "" then defaultLevel
  else
    let word := String.ofList (trimmed.toList.map Char.toLower)
    if word = "warning" then "warn"
    else if word ∈ ["trace", "debug", "info", "warn", "error"] then word
    else trimmed

variable {δ φ : Type}

/-- The filter of the configured level alone. -/
def configFilter (lang : FilterLanguage δ φ) (c : LoggingConfig) : Except FilterError φ :=
  lang.parseOr (normalizeLevel c.level) (.ok (lang.ofLevel .info))

/-- The directives that the environment gives: none if they are blank. -/
def environmentText? (value : Option String) : Option String :=
  (value.map Text.trim).filter (· ≠ "")

/-- The filter of the configured level and the environment. -/
def filter (lang : FilterLanguage δ φ) (c : LoggingConfig) (environment : Option String) :
    Except FilterError φ :=
  match environmentText? environment with
  | none => c.configFilter lang
  | some directives =>
    lang.parseOr (normalizeLevel c.level ++ "," ++ directives)
      (lang.parseOr directives (c.configFilter lang))

end LoggingConfig

end JavaChecker
