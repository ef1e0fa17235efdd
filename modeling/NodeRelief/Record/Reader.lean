import NodeRelief.Cluster.Object
import NodeRelief.Config
import NodeRelief.Fault
import NodeRelief.Profile.Basic

/-!
# Reading records

A record is a document about one object of the cluster, a profile or a configuration. What a record
does not say has a default; what it has to say and does not makes it malformed. Most of what it says
is taken over as it is.
-/

namespace NodeRelief.Record

/-- Reads one value out of a document. -/
abbrev Reader (α : Type) := Document → Except Fault α

/-! ## Fields -/

def get? (d : Document) (name : String) : Option Document :=
  match d with
  | .object fields => Document.field? name fields
  | _ => none

/-- A field that is there and not `null`. -/
def given? (d : Document) (name : String) : Option Document :=
  match get? d name with
  | some .null => none
  | found => found

/-- A field with a default; a document that is no object has not even that. -/
def field {α : Type} (d : Document) (name : String) (default : α) (read : Reader α) :
    Except Fault α :=
  match d with
  | .object fields => ((Document.field? name fields).map read).getD (.ok default)
  | _ => .error .noField

def need {α : Type} (d : Document) (name : String) (read : Reader α) : Except Fault α :=
  match d with
  | .object fields =>
    match Document.field? name fields with
    | some v => read v
    | none => .error (.malformedData (name ++ " expected in " ++ d.quoted))
  | _ => .error .wrongKind

def maybe {α : Type} (d : Document) (name : String) (read : Reader α) :
    Except Fault (Option α) :=
  match given? d name with
  | none => .ok none
  | some v => (read v).map some

/-! ## Values -/

/-- A document as it is. -/
def any : Reader Document := .ok

def text : Reader String
  | .text s => .ok s
  | _ => .error .wrongKind

def number : Reader Number := Document.asNumber

def int : Reader Int := fun d => do
  match ← d.asNumber with
  | .whole i => return i
  | .fractional _ => .error .wrongKind

/-- A number of microseconds, brought to the nearest whole one. -/
def micros : Reader Int := fun d => do
  match ← d.asNumber with
  | .whole us => return us
  | .fractional x => Fault.nearest x

def flag : Reader Bool := fun d => .ok d.isTruthy

/-- The parts of a document, each read by `read`. -/
def items {α : Type} (read : Reader α) : Reader (List α) := fun d => do (← d.elements).mapM read

/-- A list that may be missing and then is empty. -/
def list {α : Type} (d : Document) (name : String) (read : Reader α) : Except Fault (List α) :=
  field d name [] (items read)

def labels : Reader Labels
  | .null => .ok .empty
  | d => Mapping.ofDocument d

/-- Labels or annotations of which nothing is asked yet. -/
def holding : Reader Holding := fun d => .ok (.ofDocument d)

def duration : Reader Duration := fun d => do
  let us ← micros d
  match Duration.ofMicros? us with
  | some duration => return duration
  | none => .error (.outOfRange (Duration.rangeText us))

def instant : Reader Instant := fun d => do
  Fault.orOutOfRange (Instant.ofMicros? (← micros d))

/-! ## Objects -/

def defaultNamespace : Document := "default"

def node : Reader Node := fun d => do
  let name ← need d "name" any
  let annotations ← field d "annotations" .empty labels
  let own ← field d "labels" .empty labels
  return ⟨name, annotations, own, ← field d "uid" .null any⟩

def reference : Reader OwnerReference := fun d => do
  let kind ← need d "kind" any
  let name ← need d "name" any
  let controller ← field d "controller" (.bool false) any
  let apiVersion ← field d "api_version" (.text "") any
  return ⟨kind, name, controller, apiVersion, ← field d "uid" .null any⟩

def container : Reader Container := fun d => do
  let name ← field d "name" (.text "c") any
  let requests ← field d "requests" .null any
  return ⟨name, requests, ← field d "limits" .null any⟩

def pod : Reader Pod := fun d => do
  let name ← need d "name" any
  let ns ← field d "namespace" defaultNamespace any
  let nodeName ← field d "node" .null any
  let phase ← field d "phase" (.text PodPhase.running.text) any
  let containers ← list d "containers" container
  let own ← field d "labels" .empty labels
  let owners ← list d "owners" reference
  let uid ← field d "uid" .null any
  return ⟨name, ns, nodeName, .ofDocument phase, containers, own, owners, uid⟩

def ownerKind : Reader OwnerKind := fun d => do
  match OwnerKind.ofDocument? d with
  | some kind => return kind
  | none => .error (.invalid (d.quoted ++ " is not a valid OwnerKind"))

def ownerId : Reader OwnerId := fun d => do
  let kind ← need d "kind" ownerKind
  let ns ← field d "namespace" defaultNamespace any
  return ⟨kind, ns, ← need d "name" any⟩

def owner : Reader Owner := fun d => do
  let id ← ownerId d
  let annotations ← field d "annotations" .empty labels
  let owners ← list d "owners" reference
  let uid ← field d "uid" .null any
  let resourceVersion ← field d "resource_version" .null any
  return ⟨id.kind, id.name, id.ns, annotations, owners, uid, resourceVersion⟩

def requirement : Reader Requirement := fun d => do
  let key ← need d "key" any
  let operator ← need d "operator" any
  return ⟨key, operator, ← list d "values" any⟩

def selector : Reader (Option Selector)
  | .null => .ok none
  | d => do
    let own ← field d "labels" .empty labels
    return some ⟨own, ← list d "exprs" requirement⟩

def budget : Reader Budget := fun d => do
  let name ← need d "name" any
  let ns ← field d "namespace" defaultNamespace any
  let sel ← field d "selector" none selector
  return ⟨name, ns, sel, ← field d "allowed" (.int 0) any⟩

def profile : Reader Profile := fun d => do
  let name ← need d "name" any
  let priority ← need d "priority" any
  let cpu ← field d "cpu" .null any
  let memory ← field d "memory" .null any
  return ⟨name, priority, cpu, memory, ← field d "rv" .null any⟩

/-- A draft of a configuration; durations are in microseconds. -/
def configDraft : Reader ConfigDraft := fun d => do
  let base : ConfigDraft := {}
  let recheckInterval ← field d "recheck_interval_us" base.recheckInterval duration
  let nodeCap ← field d "max_evictions_per_node_per_cycle" base.nodeCap any
  let single ← field d "single_eviction_per_cycle" base.single any
  let evictUnprofiled ← field d "evict_unprofiled" base.evictUnprofiled any
  let afterEviction ← field d "post_eviction_requeue_us" base.afterEviction duration
  let afterRateLimit ← field d "rate_limited_requeue_us" base.afterRateLimit duration
  let gracePeriod ← field d "eviction_grace_period_seconds" base.gracePeriod any
  let degradedMark ← field d "degraded_annotation" base.degradedMark any
  let workloadLabel ← field d "workload_type_label" base.workloadLabel any
  let cooldownMark ← field d "cooldown_annotation" base.cooldownMark any
  return {
    recheckInterval, nodeCap, single, evictUnprofiled, afterEviction, afterRateLimit, gracePeriod
    degradedMark, workloadLabel, cooldownMark }

def config : Reader Config := fun d => do
  match (← configDraft d).check with
  | .ok c => return c
  | .error flaw => .error flaw.fault

end NodeRelief.Record
