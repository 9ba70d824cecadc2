import JavaChecker.Config.Basic
import JavaChecker.Files.FileSystem
import JavaChecker.Log.Event
import JavaChecker.Toml.Reader

/-!
# JavaChecker.Config.Load

Reading the configuration from a text and from a file, with what is logged on the way.
-/

namespace JavaChecker

open Log (Event)
open Files (FileSystem ReadError)

/-- Why there is no configuration. -/
inductive ConfigError where
  /-- The file cannot be read. -/
  | unreadable (path : String) (error : ReadError)
  /-- The text is not TOML. -/
  | malformed
  /-- The document is not a configuration. -/
  | invalid (problem : Problem)
deriving DecidableEq, Inhabited

/-- The failure in words. -/
def ConfigError.message : ConfigError → String
  | .unreadable path e => s!"failed to read config file {path}: {e.message}"
  | .malformed => "failed to parse toml config: not a TOML document"
  | .invalid p => s!"failed to parse toml config: {p.message .toml}"

/-- A result and what was logged on the way to it. -/
structure Logged (α : Type) where
  value : α
  events : List Event := []

namespace Config

/-- The target under which the configuration logs. -/
def target : String := "jtc_config"

/-- The configuration that a text stands for. -/
def ofText (text : String) : Except ConfigError Config :=
  match Toml.parse? text with
  | none => .error .malformed
  | some d => (decode .toml d).mapError .invalid

/-- A buffer without room was asked for. -/
def noRoomForLines : Event where
  level := .warn
  target := target
  message := "logging.buffer_lines = 0 keeps no lines; a single line will be buffered"

/-- What is odd about a configuration. -/
def warnings (c : Config) : List Event :=
  if c.logging.bufferLines = 0 then [noRoomForLines] else []

/-- Load the configuration from a text. -/
def load (text : String) : Logged (Except ConfigError Config) :=
  match ofText text with
  | .ok c => { value := .ok c, events := c.warnings }
  | .error e => { value := .error e }

end Config

end JavaChecker
