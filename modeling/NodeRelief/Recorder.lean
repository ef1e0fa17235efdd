import NodeRelief.Api.Request
import NodeRelief.Profile.Feed

/-!
# Event recorders

A recorder keeps events in memory, writes them to a log, publishes them through the API, or hands
them to several recorders in turn. Every one of the first three refuses an invalid event. A failed
publication is noted in the log and counts as recorded.
-/

namespace NodeRelief

/-- Where and how events are published. -/
structure Publisher where
  api : Api
  component : Document
  timeout : Document
  /-- The levels of what was noted about failed publications. -/
  notes : List Level

namespace Publisher

/-- The namespace of events about objects that are in none. -/
def defaultNamespace : String := "default"

def namespaceOf (s : Subject) : Document := s.ns.orElse defaultNamespace

def body (p : Publisher) (e : Event) : EventBody where
  nameStem := e.subject.name.plain ++ "."
  ns := namespaceOf e.subject
  subject := e.subject
  reason := e.reason
  message := e.message
  severity := e.severity
  count := 1
  first := e.time
  last := e.time
  component := p.component

def send (p : Publisher) (b : EventBody) : Except Fault Unit × Publisher :=
  match p.api.send (.createEvent b.ns b) p.timeout with
  | (.ok _, api) => (.ok (), { p with api })
  | (.error f, api) =>
    match f.clientError? with
    | some _ => (.ok (), { p with api, notes := p.notes ++ [.warning] })
    | none => (.error f, { p with api })

def publish (p : Publisher) (e : Event) : Except Fault Unit × Publisher :=
  match (p.body e).check with
  | .ok b => p.send b
  | .error f => (.error f, p)

end Publisher

inductive Recorder where
  | memory (events : List Event)
  | log (lines : List (Level × String))
  | publisher (p : Publisher)
  | all (recorders : List Recorder)

namespace Recorder

def logLevel (e : Event) : Level := if e.severity = .text Event.warning then .warning else .info

def logLine (e : Event) : String :=
  "[event] " ++ e.reason.plain ++ " | " ++ e.subject.kind ++ "/" ++ e.subject.name.plain ++ " | " ++ e.message

/-- Lets only valid events through. -/
def checked (e : Event) (r : Recorder) (accept : Except Fault Unit × Recorder) :
    Except Fault Unit × Recorder :=
  match e.flaw? with
  | some flaw => (.error flaw.fault, r)
  | none => accept

mutual

def record (e : Event) : Recorder → Except Fault Unit × Recorder
  | .memory events => checked e (.memory events) (.ok (), .memory (events ++ [e]))
  | .log lines => checked e (.log lines) (.ok (), .log (lines ++ [(logLevel e, logLine e)]))
  | .publisher p =>
    let (outcome, p') := p.publish e
    checked e (.publisher p) (outcome, .publisher p')
  | .all recorders =>
    let (outcome, recorders') := recordEach e recorders
    (outcome, .all recorders')

/-- Hands the event from one recorder to the next, up to the first that fails. -/
def recordEach (e : Event) : List Recorder → Except Fault Unit × List Recorder
  | [] => (.ok (), [])
  | r :: rest =>
    match record e r with
    | (.error f, r') => (.error f, r' :: rest)
    | (.ok (), r') =>
      let (outcome, rest') := recordEach e rest
      (outcome, r' :: rest')

end

/-- The events kept in memory. -/
def events : Recorder → List Event
  | .memory es => es
  | _ => []

/-- The lines written to the log. -/
def lines : Recorder → List (Level × String)
  | .log ls => ls
  | _ => []

end Recorder

end NodeRelief
