import NodeRelief.Document.Order
import NodeRelief.Time.Instant

/-!
# Configuration

What a cycle has to know. A draft becomes a configuration if at least one eviction per node is
allowed and the recheck interval is positive. Nothing else about a draft is checked: its names and
flags are any documents, and the flags count as what the documents count as.
-/

namespace NodeRelief

/-- The annotation that marks a degraded node, unless another is configured. -/
def degradedMarkName : String := "kube-balance.io/degraded-io"

/-- The label that states the workload type of a pod, unless another is configured. -/
def workloadLabelName : String := "workload.k8s.io/type"

/-- The annotation that holds the end of an owner's cooldown, unless another is configured. -/
def cooldownMarkName : String := "kube-balance.io/eviction-cooldown-until"

/-- The recheck interval, unless another is configured. -/
def standardInterval : Duration := .ofSeconds 120

/-- The delay after evictions, unless another is configured. -/
def standardDelay : Duration := .ofSeconds 5

/-- The delay after a rate limit, unless another is configured. -/
def standardBackoff : Duration := .ofSeconds 10

structure ConfigDraft where
  recheckInterval : Duration := standardInterval
  /-- The most evictions from one node in one cycle. -/
  nodeCap : Document := .int 1
  /-- Whether a cycle ends with its first eviction. -/
  single : Document := .bool true
  /-- Whether pods without a profile are evicted too. -/
  evictUnprofiled : Document := .bool false
  /-- The delay before the next cycle when pods were evicted. -/
  afterEviction : Duration := standardDelay
  /-- The delay before the next cycle when evictions were rate limited. -/
  afterRateLimit : Duration := standardBackoff
  gracePeriod : Document := .int 30
  degradedMark : Document := degradedMarkName
  workloadLabel : Document := workloadLabelName
  cooldownMark : Document := cooldownMarkName
deriving DecidableEq

inductive ConfigFlaw where
  /-- A cap that is no number. -/
  | noNumber
  | noEvictions
  | noInterval
deriving DecidableEq, Repr

namespace ConfigFlaw

def fault : ConfigFlaw → Fault
  | .noNumber => .wrongKind
  | .noEvictions => .invalid "max_evictions_per_node_per_cycle must be at least 1"
  | .noInterval => .invalid "recheck_interval must be positive"

end ConfigFlaw

/-- The number that a cap is; what is below 1 allows no eviction at all. -/
def ConfigDraft.cap? (d : ConfigDraft) : Option Number :=
  d.nodeCap.asNumber?.filter fun cap => !cap.lt (.whole 1)

structure Config extends ConfigDraft where
  cap_isSome : toConfigDraft.cap?.isSome = true
  recheckInterval_pos : 0 < recheckInterval.micros
deriving DecidableEq

namespace ConfigDraft

/-- Whether a cycle ends with its first eviction. -/
def isSingle (d : ConfigDraft) : Bool := d.single.isTruthy

def evictsUnprofiled (d : ConfigDraft) : Bool := d.evictUnprofiled.isTruthy

/-- Whether so many evictions from a node are all that the cap allows. -/
def isSpent (d : ConfigDraft) (evictions : Nat) : Bool := d.cap?.any (·.le (.whole evictions))

def check (d : ConfigDraft) : Except ConfigFlaw Config :=
  if d.nodeCap.asNumber?.isNone then .error .noNumber
  else if hc : d.cap?.isSome = true then
    if hr : 0 < d.recheckInterval.micros then .ok ⟨d, hc, hr⟩ else .error .noInterval
  else .error .noEvictions

end ConfigDraft

def Config.default : Config := ⟨{}, by decide, by decide⟩

instance : Inhabited Config := ⟨.default⟩

end NodeRelief
