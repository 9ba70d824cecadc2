import JavaChecker.Config.Level
import JavaChecker.Files.Snapshot
import JavaChecker.Log.Buffer
import JavaChecker.Log.Line

/-!
# JavaChecker.Log.Sinks

Where log lines go: into a buffer in memory, and, as the configuration asks for, to standard error
and to the end of a file.

Logging is started once. A later start changes nothing, whatever configuration it is given. An
event is rendered once and written to all sinks, if the filter lets it pass. A file that cannot be
opened is left out, and the log says so. A start breaks off when the reading of its filter does, and
then the next one is a first start again.

Events go to the log alone. That something else in the program takes them over before the first
start, so that the log stays empty and does not complain about its file, is not described here.
-/

namespace JavaChecker.Log

open Files (Snapshot Location)

/-- A started log, with a filter of the given type. -/
structure Logger (φ : Type) where
  filter : φ
  format : Format
  /-- Whether lines also go to standard error. -/
  toStderr : Bool
  /-- The file that lines are also appended to. -/
  file : Option Location
  buffer : Buffer
deriving DecidableEq, Inhabited

/-- The log of a program, started or not, with what it has written so far. -/
structure Logging (φ : Type) where
  logger : Option (Logger φ) := none
  /-- What standard error has received. -/
  stderr : String := ""
  files : Snapshot := {}
deriving DecidableEq, Inhabited

/-- The log file cannot be opened. -/
def fileDisabled (path : String) : Event where
  level := .warn
  target := "jtc_config"
  message := "failed to open log file; file logging disabled"
  fields := [⟨"path", .shown path⟩]

namespace Logging

variable {δ φ : Type}

/-- Write an event that happens at a time to all sinks, if it passes the filter. -/
def emit (lang : FilterLanguage δ φ) (s : Logging φ) (time : String) (e : Event) : Logging φ :=
  match s.logger with
  | none => s
  | some l =>
    if lang.passes l.filter e then
      let line := e.line l.format time
      let bytes := Text.encode line
      { logger := some { l with buffer := l.buffer.write bytes }
        stderr := if l.toStderr then s.stderr ++ line else s.stderr
        files := l.file.elim s.files fun loc => s.files.append loc bytes }
    else s

/-- Write several events. -/
def emitAll (lang : FilterLanguage δ φ) (s : Logging φ) (time : String) (es : List Event) :
    Logging φ :=
  es.foldl (fun s e => s.emit lang time e) s

/-- Open the configured file: the files afterwards, where it is, and what there is to complain
about. -/
def openFile (files : Snapshot) (path : Option String) :
    Snapshot × Option Location × List Event :=
  match path with
  | none => (files, none, [])
  | some path =>
    match files.openToAppend? path with
    | some (files, loc) => (files, some loc, [])
    | none => (files, none, [fileDisabled path])

/-- The steps that start logging as configured; `environment` holds the directives that the
environment gives. Once it is started, nothing changes. The filter is read first, and without one
the steps end there. -/
def starting (lang : FilterLanguage δ φ) (c : LoggingConfig) (environment : Option String)
    (time : String) : EStateM FilterError (Logging φ) Unit := do
  if (← get).logger.isNone then
    let filter ← MonadExcept.ofExcept (c.filter lang environment)
    let (files, file, complaints) := openFile (← get).files c.file
    let logger : Logger φ := {
      filter := filter
      format := if c.json then .json else .text
      toStderr := c.stderr
      file := file
      buffer := .new c.bufferLines }
    modify fun s => { s with logger := some logger, files := files }
    modify (·.emitAll lang time complaints)

/-- Start logging: whether it was started or broke off, and the log afterwards. -/
def start (lang : FilterLanguage δ φ) (s : Logging φ) (c : LoggingConfig)
    (environment : Option String) (time : String) : EStateM.Result FilterError (Logging φ) Unit :=
  (starting lang c environment time).run s

/-- A started log stays as it is. -/
theorem start_of_started (lang : FilterLanguage δ φ) {s : Logging φ} {l : Logger φ}
    (h : s.logger = some l) (c : LoggingConfig) (environment : Option String) (time : String) :
    s.start lang c environment time = .ok () s := by
  simp [start, starting, h]

/-- A start without a filter changes nothing. -/
theorem start_of_error (lang : FilterLanguage δ φ) {s : Logging φ} (hs : s.logger = none)
    {c : LoggingConfig} {environment : Option String} {err : FilterError}
    (h : c.filter lang environment = .error err) (time : String) :
    s.start lang c environment time = .error err s := by
  have hread : (MonadExcept.ofExcept (c.filter lang environment) :
      EStateM FilterError (Logging φ) φ).run s = .error err s := by
    rw [h]
    rfl
  simp [start, starting, hs, hread]

/-- A first start opens the file and complains about it if it has to. -/
theorem start_of_ok (lang : FilterLanguage δ φ) {s : Logging φ} (hs : s.logger = none)
    {c : LoggingConfig} {environment : Option String} {f : φ}
    (h : c.filter lang environment = .ok f) (time : String) :
    s.start lang c environment time =
      .ok () (emitAll lang { s with
        logger := some {
          filter := f
          format := if c.json then .json else .text
          toStderr := c.stderr
          file := (openFile s.files c.file).2.1
          buffer := .new c.bufferLines }
        files := (openFile s.files c.file).1 } time (openFile s.files c.file).2.2) := by
  simp [start, starting, hs, h, MonadExcept.ofExcept]

end Logging

end JavaChecker.Log
