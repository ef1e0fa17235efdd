import NodeRelief.Cycle
import NodeRelief.Profile.Watch
import NodeRelief.Recorder
import NodeRelief.Settings
import NodeRelief.Worker

/-!
# The controller

The parts of a running controller, put together from settings, and the course of its launch.
-/

namespace NodeRelief

structure Controller where
  credentialsFile : Document
  credentialsContext : Document
  /-- Seconds that a request about the cluster may take. -/
  clientTimeout : Document
  recorder : Recorder
  watch : WatchSettings
  config : Config
  worker : Worker

namespace Controller

/-- Events go to the log first, then to the API. -/
def recorderOf (s : Settings) (api : Api) : Recorder :=
  .all [.log [], .publisher ⟨api, s.eventSource, .int s.callTimeout, []⟩]

def watchOf (s : Settings) : WatchSettings := ⟨.int s.callTimeout, .int s.streamTimeout, .int 5⟩

/-- The document of a setting that may be missing. -/
def textOrNull (t : Option String) : Document := (t.map .text).getD .null

/-- The controller of these settings, with `api` behind it. -/
def ofSettings (s : Settings) (api : Api) : Except Fault Controller := do
  let config ← s.config
  return {
    credentialsFile := textOrNull s.credentialsFile
    credentialsContext := textOrNull s.credentialsContext
    clientTimeout := .int s.callTimeout
    recorder := recorderOf s api
    watch := watchOf s
    config
    worker := .create (Worker.backoffOf config none) }

end Controller

/-- The levels of the log that can be set by name. -/
inductive LogLevel where
  | notSet
  | debug
  | info
  | warning
  | error
  | critical
deriving DecidableEq, Repr

namespace LogLevel

def number : LogLevel → Nat
  | .notSet => 0
  | .debug => 10
  | .info => 20
  | .warning => 30
  | .error => 40
  | .critical => 50

/-- A letter in upper case, as far as that is a letter of ASCII. -/
def upperLetter (c : Char) : Char :=
  if c = '\u0131' then 'I' else if c = '\u017f' then 'S' else c.toUpper

def names : List (String × LogLevel) :=
  [("NOTSET", .notSet), ("DEBUG", .debug), ("INFO", .info), ("WARN", .warning),
    ("WARNING", .warning), ("ERROR", .error), ("FATAL", .critical), ("CRITICAL", .critical)]

/-- The level of a name in any case; a name of none means the level `info`. -/
def ofName (name : String) : LogLevel :=
  (names.lookup (String.ofList (name.toList.map upperLetter))).getD .info

end LogLevel

/-- How a launch went. -/
structure Launch where
  level : LogLevel
  /-- Whether the worker was started. -/
  started : Bool
  exitCode : Nat
deriving DecidableEq, Repr

namespace Launch

def failed : Nat := 1

/-- The exit code after the worker ended; being interrupted is no failure. -/
def exitCodeOf : Option Fault → Nat
  | none => 0
  | some f => if f.isInterruption then 0 else failed

/-- A launch with these settings. The worker starts if the controller could be put `together`, and
ends with `ending` if it fails. -/
def run (s : Settings) (together : Except Fault Unit) (ending : Option Fault) : Launch :=
  let level := LogLevel.ofName s.logLevel
  match together with
  | .error f => ⟨level, false, exitCodeOf (some f)⟩
  | .ok () => ⟨level, true, exitCodeOf ending⟩

end Launch

end NodeRelief
