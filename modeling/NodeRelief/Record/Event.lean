import NodeRelief.Event
import NodeRelief.Record.Reader

/-!
# Records of what happened

A record of something that happened names its kind and gives what is to be told: a node, a pod, an
owner and some words, as many of them as that kind of event takes, in this order. The record may also
put a reason and a severity of its own in the place of those that the event has.
-/

namespace NodeRelief.Record

/-- What is told in an event. -/
inductive Told where
  | node (n : Node)
  | pod (p : Pod)
  | owner (o : Owner)
  | words (d : Document)

namespace Told

/-- Whatever has a name can be told of like a node. -/
def asNode : Told → Except Fault Node
  | .node n => .ok n
  | .pod p => .ok ⟨p.name, .empty, .empty, p.uid⟩
  | .owner o => .ok ⟨o.name, .empty, .empty, o.uid⟩
  | .words _ => .error .noField

/-- Whatever has a name and a namespace can be told of like a pod. -/
def asPod : Told → Except Fault Pod
  | .pod p => .ok p
  | .owner o => .ok ⟨o.name, o.ns, .null, .unknown, [], .empty, [], o.uid⟩
  | .node _ | .words _ => .error .noField

def asOwner : Told → Except Fault Owner
  | .owner o => .ok o
  | _ => .error .noField

def asWords : Told → Except Fault Document
  | .words d => .ok d
  | _ => .error .noField

end Told

def told (d : Document) : Except Fault (List Told) := do
  let n ← field d "node" [] fun v => (node v).map fun n => [.node n]
  let p ← field d "pod" [] fun v => (pod v).map fun p => [.pod p]
  let o ← field d "owner" [] fun v => (owner v).map fun o => [.owner o]
  let t ← field d "text" [] fun v => .ok [.words v]
  return n ++ p ++ o ++ t

/-- The event of a kind. -/
def eventOf (kind : String) (told : List Told) : Except Fault Event :=
  match kind, told with
  | "node_degraded", [n] => return .nodeDegraded (← n.asNode)
  | "eviction_skipped", [p, o, t] => do
    return .evictionSkipped (← p.asPod) (← o.asOwner) (← t.asWords).plain
  | "pdb_violation", [p, t] => return .budgetViolation (← p.asPod) (← t.asWords).plain
  | "pdb_check_failed", [p, t] => return .budgetCheckFailed (← p.asPod) (← t.asWords).plain
  | "pod_evicted", [p, t] => return .podEvicted (← p.asPod) (← t.asWords)
  | "eviction_rate_limited", [p] => return .evictionRateLimited (← p.asPod)
  | "eviction_failed", [p, t] => return .evictionFailed (← p.asPod) (← t.asWords).plain
  | "cooldown_set", [o, t] => return .cooldownSet (← o.asOwner) (← t.asWords).plain
  | "cooldown_failed", [o, t] => return .cooldownFailed (← o.asOwner) (← t.asWords).plain
  | _, _ => .error .wrongKind

/-- An event of a record; `now` is when it happened if the record does not say. -/
def event (now : Instant) : Reader Event := fun d => do
  let e ← eventOf (← need d "factory" text) (← told d)
  return { e with
    reason := (get? d "reason").getD e.reason
    severity := (get? d "type").getD e.severity
    time := some (← field d "timestamp_us" now instant) }

end NodeRelief.Record
