import JavaChecker.Log.Sinks
import JavaChecker.Proofs.Appending
import JavaChecker.Proofs.Buffer
import JavaChecker.Proofs.FilterText

/-!
# JavaChecker.Proofs.LogStream

One stream for all sinks, in any language of directives. From its start on, a log writes a single
text: the lines of the events that pass its filter, in the order in which they happen
(`FilterLanguage.stream`). `Carries` says what each sink makes of a text: the buffer keeps the last
of its lines, standard error and the file receive it at their ends.

`Wired` is the invariant behind it. It adds to `Carries` what the log itself was started with, so
that it can be followed step by step: an event that passes adds its line (`Wired.emit`), and
starting again does nothing. `Wired.run` is the same for all steps of a program.

All this is about a start that takes place. One with a half of its filter text that breaks off does
not: the log stays as it was, and there is nothing for the sinks to carry.
-/

namespace JavaChecker

open Files (Snapshot Location)
open Files.Snapshot (Appended appended_of_openToAppend?)
open LoggingConfig (normalizeLevel environmentText?)

/-- How a log that is configured so writes its lines. -/
def LoggingConfig.format (c : LoggingConfig) : Log.Format := if c.json then .json else .text

namespace Log

/-! ### The stream -/

variable {δ φ : Type}

namespace FilterLanguage

/-- What a log writes of the given events and their times: the lines of those that pass. -/
def stream (lang : FilterLanguage δ φ) (f : φ) (format : Format) (events : List (String × Event)) :
    String :=
  String.join ((events.filter fun e => lang.passes f e.2).map fun e => e.2.line format e.1)

@[simp] theorem stream_nil (lang : FilterLanguage δ φ) (f : φ) (format : Format) :
    lang.stream f format [] = "" := rfl

theorem stream_of_passes {lang : FilterLanguage δ φ} {f : φ} {e : Event}
    (h : lang.passes f e = true) (format : Format) (time : String) :
    lang.stream f format [(time, e)] = e.line format time := by
  simp [stream, h]

theorem stream_of_not_passes {lang : FilterLanguage δ φ} {f : φ} {e : Event}
    (h : ¬ lang.passes f e = true) (format : Format) (time : String) :
    lang.stream f format [(time, e)] = "" := by
  simp [stream, h]

theorem stream_append (lang : FilterLanguage δ φ) (f : φ) (format : Format)
    (front back : List (String × Event)) :
    lang.stream f format (front ++ back) =
      lang.stream f format front ++ lang.stream f format back := by
  simp [stream, String.join_append]

theorem stream_cons (lang : FilterLanguage δ φ) (f : φ) (format : Format) (e : String × Event)
    (events : List (String × Event)) :
    lang.stream f format (e :: events) =
      lang.stream f format [e] ++ lang.stream f format events :=
  lang.stream_append f format [e] events

end FilterLanguage

theorem Event.ended_line (e : Event) (format : Format) (time : String) :
    Text.Ended (e.line format time) := by
  cases format with
  | text => exact .inr ⟨_, rfl⟩
  | json => exact .inr ⟨_, rfl⟩

namespace Logging

/-- What a program does with its log. -/
inductive Step where
  | emit (time : String) (e : Event)
  | start (c : LoggingConfig) (environment : Option String) (time : String)

def step (lang : FilterLanguage δ φ) : Step → EStateM FilterError (Logging φ) Unit
  | .emit time e => modify (·.emit lang time e)
  | .start c environment time => starting lang c environment time

/-- The events among the steps, with their times. -/
def emitted (steps : List Step) : List (String × Event) :=
  steps.filterMap fun
    | .emit time e => some (time, e)
    | .start .. => none

/-- Start a log and go on with it. A start that breaks off is the end of it. -/
def session (lang : FilterLanguage δ φ) (s : Logging φ) (c : LoggingConfig)
    (environment : Option String) (time : String) (steps : List Step) :
    EStateM.Result FilterError (Logging φ) Unit :=
  EStateM.run (do starting lang c environment time; forM steps (step lang)) s

/-- What a started log has to say first: a warning if there is a file to open and it cannot be
opened. -/
def firstEvents (files : Snapshot) (c : LoggingConfig) (time : String) : List (String × Event) :=
  match c.file with
  | none => []
  | some path =>
    if (files.openToAppend? path).isSome then []
    else [(time, {
      level := .warn
      target := "jtc_config"
      message := "failed to open log file; file logging disabled"
      fields := [⟨"path", .shown path⟩] })]

/-- The lines in memory. -/
def bufferLines (s : Logging φ) : List String := s.logger.elim [] (·.buffer.lines)

/-! ### The file -/

/-- What becomes of the files when `text` goes to a log file, which is opened at the second
argument if it can be. -/
inductive FileCarries (before : Snapshot) (text : String) :
    Option String → Option Location → Snapshot → Prop where
  | unconfigured : FileCarries before text none none before
  | unopenable {path : String} (h : before.openToAppend? path = none) :
      FileCarries before text (some path) none before
  | opened {path : String} {loc : Location} {old : List UInt8} {after : Snapshot}
      (hopen : (before.openToAppend? path).isSome = true)
      (h : Appended before path loc old (Text.encode text) after) :
      FileCarries before text (some path) (some loc) after

theorem FileCarries.append {before after : Snapshot} {text : String} {path : Option String}
    {file : Option Location} (h : FileCarries before text path file after) (more : String) :
    FileCarries before (text ++ more) path file
      (file.elim after fun loc => after.append loc (Text.encode more)) := by
  cases h with
  | unconfigured => exact .unconfigured
  | unopenable h => exact .unopenable h
  | opened hopen h =>
      have hmore := h.append (Text.encode more)
      rw [← Text.encode_append] at hmore
      exact .opened hopen hmore

theorem FileCarries.eq_of_unopenable {before after : Snapshot} {text : String}
    {path : Option String} {file : Option Location} (h : FileCarries before text path file after)
    (hclosed : ∀ p, path = some p → before.openToAppend? p = none) : after = before := by
  cases h with
  | unconfigured => rfl
  | unopenable => rfl
  | opened hopen =>
      rw [hclosed _ rfl] at hopen
      cases hopen

theorem FileCarries.exists_appended {before after : Snapshot} {text path : String}
    {file : Option Location} (h : FileCarries before text (some path) file after)
    (hopen : (before.openToAppend? path).isSome = true) :
    ∃ loc old, Appended before path loc old (Text.encode text) after := by
  cases h with
  | unopenable hclosed =>
      rw [hclosed] at hopen
      cases hopen
  | opened _ happended => exact ⟨_, _, happended⟩

theorem fileCarries_openFile (files : Snapshot) (path : Option String) :
    FileCarries files "" path (openFile files path).2.1 (openFile files path).1 := by
  cases path with
  | none => exact .unconfigured
  | some path =>
      cases hopen : files.openToAppend? path with
      | none =>
          simp only [openFile, hopen]
          exact .unopenable hopen
      | some opened =>
          obtain ⟨old, hold⟩ := appended_of_openToAppend? hopen
          simp only [openFile, hopen]
          exact .opened (by rw [hopen]; rfl) hold

theorem map_complaints_openFile (files : Snapshot) (c : LoggingConfig) (time : String) :
    (openFile files c.file).2.2.map (Prod.mk time) = firstEvents files c time := by
  unfold openFile firstEvents
  cases c.file with
  | none => rfl
  | some path => cases hopen : files.openToAppend? path <;> simp [hopen, fileDisabled]

/-! ### The invariant -/

/-- The log `s` is written to through `l`, which was set up as configured in `c` with the filter
`f`, and has received `text` since it was `before`. -/
structure Wired (before : Logging φ) (c : LoggingConfig) (f : φ) (text : String) (s : Logging φ)
    (l : Logger φ) : Prop where
  logger : s.logger = some l
  filter : l.filter = f
  format : l.format = c.format
  toStderr : l.toStderr = c.stderr
  ended : Text.Ended text
  buffer : l.buffer.Shows c.bufferLines (Text.fullLines text)
  stderr : s.stderr = if c.stderr then before.stderr ++ text else before.stderr
  file : FileCarries before.files text c.file l.file s.files

variable {lang : FilterLanguage δ φ} {before s : Logging φ} {c : LoggingConfig} {f : φ}
  {text : String} {l : Logger φ}

/-- **One event** adds its line to what all sinks have received, or nothing if it does not pass. -/
theorem Wired.emit (h : Wired before c f text s l) (lang : FilterLanguage δ φ) (time : String)
    (e : Event) :
    ∃ l', Wired before c f (text ++ lang.stream f c.format [(time, e)])
      (s.emit lang time e) l' := by
  by_cases hpass : lang.passes f e = true
  · have hemit : s.emit lang time e = {
        logger := some { l with buffer := l.buffer.write (Text.encode (e.line c.format time)) }
        stderr := if l.toStderr then s.stderr ++ e.line c.format time else s.stderr
        files := l.file.elim s.files fun loc =>
          s.files.append loc (Text.encode (e.line c.format time)) } := by
      simp [Logging.emit, h.logger, h.filter, hpass, h.format]
    have hbuffer := h.buffer.write (Text.encode (e.line c.format time))
    rw [Buffer.linesOf_encode, ← Text.fullLines_append h.ended] at hbuffer
    rw [hemit, FilterLanguage.stream_of_passes hpass]
    refine ⟨_, rfl, h.filter, h.format, h.toStderr, h.ended.append (e.ended_line _ _), hbuffer, ?_,
      h.file.append _⟩
    rw [h.toStderr, h.stderr]
    cases c.stderr with
    | false => rfl
    | true => exact String.append_assoc ..
  · have hemit : s.emit lang time e = s := by
      simp [Logging.emit, h.logger, h.filter, hpass]
    rw [hemit, FilterLanguage.stream_of_not_passes hpass, String.append_empty]
    exact ⟨l, h⟩

theorem Wired.emitAll (h : Wired before c f text s l) (lang : FilterLanguage δ φ) (time : String)
    (es : List Event) :
    ∃ l', Wired before c f (text ++ lang.stream f c.format (es.map (Prod.mk time)))
      (s.emitAll lang time es) l' := by
  induction es generalizing s text l with
  | nil =>
      refine ⟨l, ?_⟩
      rwa [List.map_nil, FilterLanguage.stream_nil, String.append_empty]
  | cons e es ih =>
      obtain ⟨_, hfirst⟩ := h.emit lang time e
      obtain ⟨l', hrest⟩ := ih hfirst
      rw [String.append_assoc, ← FilterLanguage.stream_cons] at hrest
      exact ⟨l', hrest⟩

/-- **A run** of the log: events add their lines, and starting again adds nothing. -/
theorem Wired.run (h : Wired before c f text s l) (lang : FilterLanguage δ φ)
    (steps : List Step) :
    ∃ s' l', EStateM.run (forM steps (step lang)) s = .ok () s' ∧
      Wired before c f (text ++ lang.stream f c.format (emitted steps)) s' l' := by
  induction steps generalizing s text l with
  | nil =>
      refine ⟨s, l, rfl, ?_⟩
      rwa [emitted, List.filterMap_nil, FilterLanguage.stream_nil, String.append_empty]
  | cons step steps ih =>
      cases step with
      | emit time e =>
          obtain ⟨_, hfirst⟩ := h.emit lang time e
          obtain ⟨s', l', hrun, hrest⟩ := ih hfirst
          rw [String.append_assoc, ← FilterLanguage.stream_cons] at hrest
          refine ⟨s', l', ?_, hrest⟩
          rw [List.forM_cons, EStateM.run_bind]
          exact hrun
      | start c' environment time =>
          obtain ⟨s', l', hrun, hrest⟩ := ih h
          have hstart : EStateM.run (starting lang c' environment time) s = .ok () s :=
            start_of_started lang h.logger c' environment time
          refine ⟨s', l', ?_, hrest⟩
          rw [List.forM_cons, EStateM.run_bind, Logging.step, hstart]
          exact hrun

/-! ### The start -/

theorem wired_start (hs : s.logger = none) {environment : Option String}
    (hfilter : c.filter lang environment = .ok f) (time : String) :
    ∃ s' l, s.start lang c environment time = .ok () s' ∧
      Wired s c f (lang.stream f c.format (firstEvents s.files c time)) s' l := by
  have hopened : Wired s c f ""
      { s with
        logger := some {
          filter := f
          format := c.format
          toStderr := c.stderr
          file := (openFile s.files c.file).2.1
          buffer := .new c.bufferLines }
        files := (openFile s.files c.file).1 } _ :=
    { logger := rfl
      filter := rfl
      format := rfl
      toStderr := rfl
      ended := .inl rfl
      buffer := Buffer.shows_new c.bufferLines
      stderr := by rw [String.append_empty, ite_self]
      file := fileCarries_openFile s.files c.file }
  obtain ⟨l, hwired⟩ := hopened.emitAll lang time (openFile s.files c.file).2.2
  rw [String.empty_append, map_complaints_openFile] at hwired
  exact ⟨_, l, start_of_ok lang hs hfilter time, hwired⟩

theorem wired_session (hs : s.logger = none) {environment : Option String}
    (hfilter : c.filter lang environment = .ok f) (time : String) (steps : List Step) :
    ∃ s' l, s.session lang c environment time steps = .ok () s' ∧
      Wired s c f (lang.stream f c.format (firstEvents s.files c time ++ emitted steps)) s' l := by
  obtain ⟨started, _, hstart, hwired⟩ := wired_start hs hfilter time
  obtain ⟨s', l, hrun, hafter⟩ := hwired.run lang steps
  rw [← FilterLanguage.stream_append] at hafter
  rw [start] at hstart
  refine ⟨s', l, ?_, hafter⟩
  rw [session, EStateM.run_bind, hstart]
  exact hrun

theorem session_of_error (hs : s.logger = none) {environment : Option String} {err : FilterError}
    (h : c.filter lang environment = .error err) (time : String) (steps : List Step) :
    s.session lang c environment time steps = .error err s := by
  have hstart : EStateM.run (starting lang c environment time) s = .error err s :=
    start_of_error lang hs h time
  rw [session, EStateM.run_bind, hstart]

/-! ### What the sinks show -/

/-- Since the log was `before`, all sinks that `c` asks for have received `text`. -/
structure Carries (before : Logging φ) (c : LoggingConfig) (text : String) (after : Logging φ) :
    Prop where
  ended : Text.Ended text
  buffer : after.bufferLines = (Text.fullLines text).rtake (max 1 c.bufferLines)
  stderr : after.stderr = if c.stderr then before.stderr ++ text else before.stderr
  /-- Without a file that can be opened, none is written and none is made. -/
  noFile : (∀ path, c.file = some path → before.files.openToAppend? path = none) →
    after.files = before.files
  /-- The file has `text` after what it held before, which is nothing if it was not there. All other
  files are as they were. -/
  file : ∀ path, c.file = some path → (before.files.openToAppend? path).isSome = true →
    ∃ old, (before.files.read path = .ok old ∨ before.files.read path = .error .notFound ∧ old = [])
      ∧ after.files.read path = .ok (old ++ Text.encode text)
      ∧ ∀ loc, after.files.resolve path ≠ .ok loc →
          after.files.entry? loc = before.files.entry? loc

theorem Wired.carries (h : Wired before c f text s l) : Carries before c text s := by
  refine ⟨h.ended, ?_, h.stderr, h.file.eq_of_unopenable, ?_⟩
  · rw [bufferLines, h.logger, Nat.max_comm]
    exact h.buffer.lines_eq
  · intro path hpath hopen
    have hfile := h.file
    rw [hpath] at hfile
    obtain ⟨there, old, happended⟩ := hfile.exists_appended hopen
    refine ⟨old, happended.read_before, happended.read_eq, ?_⟩
    intro loc hloc
    refine happended.others loc ?_
    intro heq
    rw [heq] at hloc
    exact hloc happended.resolve_eq

/-- **All sinks carry the same stream**, from the first start of a log on, unless that start breaks
off. The stream is the lines of the events that pass, after the warning about a file that cannot be
opened. It does not matter what later starts ask for. So two logs with one filter and one format
show the same lines in memory if they warn alike, whatever other sinks they have.

A start breaks off exactly when a half of its filter text does. It leaves the log as it was, and so
the next start is a first one. -/
theorem sinks_carry_one_stream (lang : FilterLanguage δ φ) {s : Logging φ} (hs : s.logger = none)
    (c : LoggingConfig) (environment : Option String) (time : String) (steps : List Step) :
    (lang.HalfBreaksOff (normalizeLevel c.level) (environmentText? environment) →
      s.session lang c environment time steps = .error .brokenOff s) ∧
    (¬ lang.HalfBreaksOff (normalizeLevel c.level) (environmentText? environment) →
      ∃ f s', c.filter lang environment = .ok f ∧
        lang.OfHalves (normalizeLevel c.level) (environmentText? environment) f ∧
        s.session lang c environment time steps = .ok () s' ∧
        Carries s c
          (lang.stream f c.format (firstEvents s.files c time ++ emitted steps)) s' ∧
        (∀ c' environment' time', s'.start lang c' environment' time' = .ok () s') ∧
        ∀ (r : Logging φ) (c' : LoggingConfig) (environment' : Option String) (time' : String),
          r.logger = none → c'.filter lang environment' = .ok f → c'.json = c.json →
          c'.bufferLines = c.bufferLines →
          lang.stream f c.format (firstEvents r.files c' time') =
            lang.stream f c.format (firstEvents s.files c time) →
          ∃ r', r.session lang c' environment' time' steps = .ok () r' ∧
            r'.bufferLines = s'.bufferLines) := by
  refine ⟨?_, ?_⟩
  · intro hbreaks
    exact session_of_error hs (LoggingConfig.filter_of_halfBreaksOff hbreaks) time steps
  · intro hreads
    obtain ⟨f, hfilter, hhalves⟩ := LoggingConfig.ofHalves_filter hreads
    obtain ⟨s', l, hsession, hwired⟩ := wired_session hs hfilter time steps
    refine ⟨f, s', hfilter, hhalves, hsession, hwired.carries,
      start_of_started lang hwired.logger, ?_⟩
    intro r c' environment' time' hr hfilter' hjson hroom hfirst
    obtain ⟨r', _, hsession', hwired'⟩ := wired_session hr hfilter' time' steps
    have hformat : c'.format = c.format := by rw [LoggingConfig.format, hjson]; rfl
    refine ⟨r', hsession', ?_⟩
    rw [hwired'.carries.buffer, hwired.carries.buffer, hroom, hformat,
      FilterLanguage.stream_append, FilterLanguage.stream_append, hfirst]

/-- Errors go to a file in the root, and one line is kept. -/
def errorsToFile : LoggingConfig := { level := "error", file := some "/log", bufferLines := 1 }

/-- Errors go to a file in a directory that is not there, and one line is kept. -/
def errorsToMissing : LoggingConfig :=
  { level := "error", stderr := false, file := some "/gone/log", bufferLines := 1 }

/-- An error of two lines, another start, and an event that is no error. -/
def errorThenInfo : List Step := [
  .emit "noon" { level := .error, target := "jtc_check", message := "first\nsecond" },
  .start {} none "later",
  .emit "later" { level := .info, target := "jtc_check", message := "third" }]

theorem errors_are_carried_by_file_and_buffer :
    session Filter.plain {} { level := "a, bé=info" } none "noon" errorThenInfo =
      .error .brokenOff {} ∧
    ∃ s' r', session Filter.plain {} errorsToFile none "noon" errorThenInfo = .ok () s' ∧
      Carries {} errorsToFile (Filter.plain.stream (.ofLevel .error) .text
        (firstEvents {} errorsToFile "noon" ++ emitted errorThenInfo)) s' ∧
      session Filter.plain {} errorsToMissing none "noon" errorThenInfo = .ok () r' ∧
      r'.bufferLines = s'.bufferLines := by
  have hbroken := (sinks_carry_one_stream Filter.plain (s := {}) rfl { level := "a, bé=info" } none
    "noon" errorThenInfo).1 (by decide)
  obtain ⟨f, s', hfilter, -, hsession, hcarries, -, hsame⟩ :=
    (sinks_carry_one_stream Filter.plain (s := {}) rfl errorsToFile none "noon" errorThenInfo).2
      (by decide)
  obtain rfl : Filter.ofLevel .error = f := Except.ok.inj hfilter
  obtain ⟨r', hsession', hlines⟩ :=
    hsame {} errorsToMissing none "noon" rfl rfl rfl rfl (by decide)
  exact ⟨hbroken, s', r', hsession, hcarries, hsession', hlines⟩

/-- The second piece of this level breaks off. -/
def brokenLevel : LoggingConfig := { level := "info,\u3000a=debug" }

def greeting : Event := { level := .info, target := "app", message := "hello" }

/-- A level that is not valid stands for `info`, and so the greeting is to be logged. But the level
breaks off: nothing is logged, and a later start, with another level, is the first one. -/
theorem greeting_lost_to_level_that_breaks_off :
    Filter.plain.OfHalves (normalizeLevel brokenLevel.level) (environmentText? none)
      (.ofLevel .info) ∧
    Filter.plain.stream (.ofLevel .info) .text [("noon", greeting)] = "noon  INFO app: hello\n" ∧
    session Filter.plain {} brokenLevel none "noon" [.emit "noon" greeting] =
      .error .brokenOff {} ∧
    ∃ s', session Filter.plain {} {} none "noon" [.emit "noon" greeting] = .ok () s' ∧
      s'.stderr = "noon  INFO app: hello\n" := by
  refine ⟨.neither (by decide) (by decide), by decide, ?_, ?_⟩
  · exact session_of_error rfl (LoggingConfig.filter_of_halfBreaksOff (by decide)) _ _
  · have hfilter : LoggingConfig.filter Filter.plain {} none = .ok (.ofLevel .info) := rfl
    obtain ⟨s', _, hsession, hwired⟩ :=
      wired_session (s := {}) rfl hfilter "noon" [.emit "noon" greeting]
    exact ⟨s', hsession, hwired.stderr.trans (by decide)⟩

end Logging

end Log

end JavaChecker
