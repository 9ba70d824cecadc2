import JavaChecker.Codec.Model

/-!
# JavaChecker.Config.Basic

The configuration of the checker and of its log, with the defaults, and how it is written in
documents. Every setting has a default and may be left out; a setting that does not exist is
refused.
-/

namespace JavaChecker

/-- The settings of the log. -/
structure LoggingConfig where
  /-- A level, or filter directives. -/
  level : String := "info"
  /-- Whether lines are JSON objects. -/
  json : Bool := false
  /-- Whether lines also go to standard error. -/
  stderr : Bool := true
  /-- The file to which lines are also appended. -/
  file : Option String := none
  /-- How many lines are kept in memory. -/
  bufferLines : Nat := 1000
deriving DecidableEq, Inhabited

/-- The configuration. -/
structure Config where
  checker : CheckOptions := {}
  logging : LoggingConfig := {}
deriving DecidableEq, Inhabited

namespace LoggingConfig

/-- Counts of lines are below this bound. -/
def countLimit : Nat := Nat.pow 2 64

/-- The fields of the logging part, each with a default. No other keys are allowed. -/
def record : Record LoggingConfig where
  name := "LoggingConfig"
  blank := {}
  fields := [
    .defaulted "level" .string fun v c => { c with level := v },
    .defaulted "json" .boolean fun v c => { c with json := v },
    .defaulted "stderr" .boolean fun v c => { c with stderr := v },
    .defaulted "file" (.nullable .path) fun v c => { c with file := v },
    .defaulted "buffer_lines" (.natural countLimit "usize") fun v c => { c with bufferLines := v }]
  closed := true

/-- Read the logging part. -/
def decode (dialect : Dialect) : Decoder LoggingConfig := record.decode dialect

/-- Write the logging part, with all its fields. -/
def toDocument (c : LoggingConfig) : Document := .table [
  ("level", .string c.level),
  ("json", .boolean c.json),
  ("stderr", .boolean c.stderr),
  ("file", .text? c.file),
  ("buffer_lines", .natural c.bufferLines)]

end LoggingConfig

namespace Config

/-- The two parts of a configuration, each with a default. No other keys are allowed. -/
def record (dialect : Dialect) : Record Config where
  name := "JtcConfig"
  blank := {}
  fields := [
    .defaulted "checker" (CheckOptions.decode dialect) fun v c => { c with checker := v },
    .defaulted "logging" (LoggingConfig.decode dialect) fun v c => { c with logging := v }]
  closed := true

/-- Read a configuration. -/
def decode (dialect : Dialect) : Decoder Config := (record dialect).decode dialect

/-- Write a configuration, with all its fields. -/
def toDocument (c : Config) : Document := .table [
  ("checker", c.checker.toDocument),
  ("logging", c.logging.toDocument)]

end Config

end JavaChecker
