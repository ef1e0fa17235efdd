import NodeRelief.Document.Access
import NodeRelief.Document.Canonical
import NodeRelief.Document.Order
import NodeRelief.Profile.Feed
import NodeRelief.Time.Seconds

/-!
# Watching profiles

The watch lists all profiles, then follows the changes from the version of the list, and lists again
when a stream fails. The server is a script of answers; once an answer is asked for that the script
does not hold, the watch is asked to stop.
-/

namespace NodeRelief

/-- What a stream delivers next. -/
inductive StreamItem where
  /-- An event; `stops` tells that the watch is asked to stop just before it arrives. -/
  | event (d : Document) (stops : Bool)
  | broken (f : Fault)

structure WatchSettings where
  /-- Seconds that a list call may take. -/
  callTimeout : Document
  /-- Seconds that a stream stays open. -/
  streamTimeout : Document
  /-- Seconds between two attempts. -/
  retryDelay : Document
deriving DecidableEq

/-- What a watch does, with the store as it was at that moment. -/
inductive WatchStep where
  | listed (timeout : Document) (store : ProfileStore)
  | opened (version timeout : Document) (store : ProfileStore)
  | closed (store : ProfileStore)
  | waited (micros : Int)

structure Watch where
  settings : WatchSettings
  feed : Feed
  stopped : Bool
  synced : Bool
  steps : List WatchStep

/-- How a stream or a list ended: with a value, or with a fault. -/
structure Watch.Result (α : Type) where
  outcome : Except Fault α
  watch : Watch
  streams : List (List StreamItem)

namespace Watch

open Document (part)

def start (settings : WatchSettings) (store : ProfileStore) (stopped : Bool) : Watch :=
  ⟨settings, ⟨store, []⟩, stopped, false, []⟩

def store (w : Watch) : ProfileStore := w.feed.store

def step (w : Watch) (s : WatchStep) : Watch := { w with steps := w.steps ++ [s] }

def stop (w : Watch) : Watch := { w with stopped := true }

/-- Waits for the retry delay, if that can be counted. A platform has a longest wait, and fails at a longer
one; delays beyond it are left out here. -/
def wait (w : Watch) : Except Fault Unit × Watch :=
  match w.settings.retryDelay.asNumber.bind Seconds.micros with
  | .ok us => (.ok (), w.step (.waited us))
  | .error f => (.error f, w)

def opening (w : Watch) (version : Document) : Watch :=
  w.step (.opened version w.settings.streamTimeout w.store)

/-- The version in the metadata of a document that is an object. -/
def versionOf (d : Document) : Except Fault Document := do
  part "resourceVersion" ((← part "metadata" d).orElse (.object []))

/-! ## Listing -/

/-- Puts the listed profiles in place of the store, then looks for the version. -/
def takeList (answer : Except Fault Document) (w : Watch) : Except Fault Document × Watch :=
  match answer with
  | .error f => (.error f, w)
  | .ok response =>
    match part "items" response with
    | .error f => (.error f, w)
    | .ok items =>
      match w.feed.resyncFrom (items.orElse (.list [])) with
      | .error f => (.error f, w)
      | .ok (feed, _) => (versionOf response, { w with feed })

def relist (answer : Except Fault Document) (w : Watch) : Except Fault Document × Watch :=
  takeList answer (w.step (.listed w.settings.callTimeout w.store))

/-- What is answered to a list call that the script has no answer for. -/
def emptyList : Document := .object [("items", .list [])]

/-! ## Streaming -/

/-- The fault told by an error event. -/
def errorOf (d : Document) : Fault :=
  let fields := match d with
    | .object fields => fields
    | _ => []
  let get (name : String) : Document := (Document.field? name fields).getD .null
  .api ((Document.field? "code" fields).getD (.int 500)) ((get "reason").orElse (get "message"))

/-- The version after an event about `d`. -/
def nextVersion (version d : Document) : Except Fault Document :=
  match d with
  | .object _ => (versionOf d).map (·.orElse version)
  | _ => .ok version

/-- Takes in one event. -/
def onEvent (event version : Document) (w : Watch) : Except Fault Document × Watch :=
  match part "type" event, part "object" event with
  | .ok kind, .ok d =>
    match kind with
    | .text "ERROR" => (.error (errorOf d), w)
    | _ =>
      (nextVersion version d, { w with feed := w.feed.apply (.ofText kind) (.document d) })
  | .error f, _ => (.error f, w)
  | _, .error f => (.error f, w)

/-- The items of one stream, in order; `none` when the watch was asked to stop among them. -/
def drain (version : Document) (w : Watch) : List StreamItem → Except Fault (Option Document) × Watch
  | [] => (.ok (some version), w)
  | .broken f :: _ => (.error f, w)
  | .event e stops :: rest =>
    let w := if stops then w.stop else w
    if w.stopped then (.ok none, w.step (.closed w.store))
    else match onEvent e version w with
      | (.error f, w) => (.error f, w)
      | (.ok version, w) => drain version w rest

/-- Opens stream after stream, each at the version reached, until asked to stop. -/
def follow (version : Document) (w : Watch) : List (List StreamItem) → Result Unit
  | [] =>
    if w.stopped then ⟨.ok (), w, []⟩ else ⟨.ok (), (w.opening version).stop, []⟩
  | stream :: rest =>
    if w.stopped then ⟨.ok (), w, stream :: rest⟩
    else match drain version (w.opening version) stream with
      | (.error f, w) => ⟨.error f, w, rest⟩
      | (.ok none, w) => ⟨.ok (), w, rest⟩
      | (.ok (some version), w) => follow version w rest

/-! ## The loop -/

/-- Whether a fault tells that the version is too old to be followed. -/
def isExpired : Fault → Bool
  | .api status _ => status.agrees (.int 410)
  | _ => false

/-- Lists, then follows. -/
def listAndFollow (answer : Except Fault Document) (streams : List (List StreamItem)) (w : Watch) :
    Result Unit :=
  match relist answer w with
  | (.error f, w) => ⟨.error f, w, streams⟩
  | (.ok version, w) => follow version { w with synced := true } streams

def afterWait (w : Watch) (streams : List (List StreamItem)) : Result Unit :=
  ⟨w.wait.1, w.wait.2, streams⟩

/-- One round of the loop: an expired version is listed again at once, all else after a wait. Only an
interruption gets out, and a delay that cannot be waited for. -/
def round (answer : Except Fault Document) (streams : List (List StreamItem)) (w : Watch) :
    Result Unit :=
  match listAndFollow answer streams w with
  | ⟨.ok (), w, streams⟩ => afterWait w streams
  | ⟨.error f, w, streams⟩ =>
    if f.isInterruption then ⟨.error f, w, streams⟩
    else if isExpired f then ⟨.ok (), w, streams⟩
    else afterWait w streams

def loop (w : Watch) (streams : List (List StreamItem)) : List (Except Fault Document) → Result Unit
  | [] =>
    if w.stopped then ⟨.ok (), w, streams⟩ else round (.ok emptyList) streams w.stop
  | answer :: rest =>
    if w.stopped then ⟨.ok (), w, streams⟩
    else match round answer streams w with
      | ⟨.error f, w, streams⟩ => ⟨.error f, w, streams⟩
      | ⟨.ok (), w, streams⟩ => loop w streams rest

end Watch

end NodeRelief
