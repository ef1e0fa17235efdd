import NodeRelief.Config
import NodeRelief.Cycle
import NodeRelief.Event
import NodeRelief.Profile.Feed
import NodeRelief.Time.Seconds

/-!
# Writing records

The documents about cluster objects, profiles, configurations, events and the results of cycles, with
every field written out.
-/

namespace NodeRelief.Record

def ofText (t : String) : Document := .text t

def ofNat (n : Nat) : Document := .int n

def ofOption {α : Type} (write : α → Document) (a : Option α) : Document :=
  (a.map write).getD .null

def ofOptionalText : Option String → Document := ofOption .text

def ofList {α : Type} (write : α → Document) (l : List α) : Document := .list (l.map write)

def ofTexts : List String → Document := ofList .text

def ofLabels (l : Labels) : Document := l.toObject

def ofDuration (d : Duration) : Document := .int d.micros

def ofSeconds (s : Seconds) : Document := ofOption .int s.micros.toOption

def ofInstant (t : Instant) : Document := .int t.micros

def ofReference (r : OwnerReference) : Document :=
  .object [("kind", r.kind), ("name", r.name), ("controller", r.controller),
    ("api_version", r.apiVersion), ("uid", r.uid)]

def ofNode (n : Node) : Document :=
  .object [("name", n.name), ("annotations", ofLabels n.annotations),
    ("labels", ofLabels n.labels), ("uid", n.uid)]

def ofContainer (c : Container) : Document :=
  .object [("name", c.name), ("requests", c.requests), ("limits", c.limits)]

def ofPod (p : Pod) : Document :=
  .object [("name", p.name), ("namespace", p.ns), ("node", p.node),
    ("phase", .text p.phase.text), ("containers", ofList ofContainer p.containers),
    ("labels", ofLabels p.labels), ("owners", ofList ofReference p.owners),
    ("uid", p.uid)]

def ofOwner (o : Owner) : Document :=
  .object [("kind", .text o.kind.text), ("name", o.name), ("namespace", o.ns),
    ("annotations", ofLabels o.annotations), ("owners", ofList ofReference o.owners),
    ("uid", o.uid), ("resource_version", o.resourceVersion)]

def ofRequirement (r : Requirement) : Document :=
  .object [("key", r.key), ("operator", r.operator), ("values", .list r.values)]

def ofSelector (s : Selector) : Document :=
  .object [("labels", ofLabels s.labels), ("exprs", ofList ofRequirement s.requirements)]

def ofBudget (b : Budget) : Document :=
  .object [("name", b.name), ("namespace", b.ns),
    ("selector", ofOption ofSelector b.selector), ("allowed", b.allowed)]

def ofProfile (p : Profile) : Document :=
  .object [("name", p.name), ("priority", p.priority), ("cpu", p.cpu), ("memory", p.memory),
    ("rv", p.version)]

/-- The profiles of a store in the order of their names, each written by `write`. -/
def ofStore (write : Profile → Document) (s : ProfileStore) : Except Fault Document :=
  (Document.sortOn Profile.name s.items).map (ofList write)

def ofConfig (c : ConfigDraft) : Document :=
  .object [("recheck_interval_us", ofDuration c.recheckInterval),
    ("post_eviction_requeue_us", ofDuration c.afterEviction),
    ("rate_limited_requeue_us", ofDuration c.afterRateLimit),
    ("max_evictions_per_node_per_cycle", c.nodeCap), ("single_eviction_per_cycle", c.single),
    ("evict_unprofiled", c.evictUnprofiled), ("eviction_grace_period_seconds", c.gracePeriod),
    ("degraded_annotation", c.degradedMark), ("workload_type_label", c.workloadLabel),
    ("cooldown_annotation", c.cooldownMark)]

def ofEvent (e : Event) : Document :=
  .object [("reason", e.reason), ("type", e.severity), ("message", .text e.message),
    ("kind", .text e.subject.kind), ("name", e.subject.name), ("namespace", e.subject.ns),
    ("api_version", .text e.subject.apiVersion), ("uid", e.subject.uid)]

def ofCycleResult (r : CycleResult) : Document :=
  .object [("requeue_after_us", ofDuration r.requeueAfter), ("evicted", ofTexts r.evicted),
    ("rate_limited", .bool r.rateLimited), ("cancelled", .bool r.cancelled),
    ("error", ofOptionalText r.error)]

def ofDecision (d : Decision) : Document :=
  .object [("admitted", .bool d.admitted), ("owner", ofOption ofOwner d.owner),
    ("rejection", ofOptionalText (d.rejection.map fun r => r.1.text)),
    ("message", .text ((d.rejection.map Prod.snd).getD ""))]

def ofLevel (l : Level) : Document := .text l.text

/-- Lines of a log, each with its level. -/
def ofLog : List (Level × String) → Document := ofList fun (l, t) => .list [ofLevel l, .text t]

end NodeRelief.Record
