import NodeRelief.Cluster.Object
import NodeRelief.Fault
import NodeRelief.Time.Instant

/-!
# Events

Records of what was decided about a node, a pod or an owner. An event is valid if its reason is one
of the known ones and the object it is about has a name.
-/

namespace NodeRelief

inductive Reason where
  | nodeDegraded
  | evictionSkipped
  | budgetViolation
  | podEvicted
  | evictionRateLimited
  | evictionFailed
  | cooldownSet
  | cooldownFailed
deriving DecidableEq, Repr

namespace Reason

def text : Reason → String
  | .nodeDegraded => "NodeDegraded"
  | .evictionSkipped => "EvictionSkipped"
  | .budgetViolation => "PDBViolation"
  | .podEvicted => "PodEvicted"
  | .evictionRateLimited => "EvictionRateLimited"
  | .evictionFailed => "EvictionFailed"
  | .cooldownSet => "CooldownSet"
  | .cooldownFailed => "CooldownAnnotationFailed"

def all : List Reason :=
  [.nodeDegraded, .evictionSkipped, .budgetViolation, .podEvicted, .evictionRateLimited,
    .evictionFailed, .cooldownSet, .cooldownFailed]

def ofDocument? (d : Document) : Option Reason := all.find? (.text ·.text = d)

end Reason

/-- The object an event is about. -/
structure Subject where
  kind : String
  name : Document
  ns : Document
  apiVersion : String
  uid : Document
deriving DecidableEq

namespace Subject

def ofNode (n : Node) : Subject := ⟨"Node", n.name, .null, "v1", n.uid⟩

def ofPod (p : Pod) : Subject := ⟨"Pod", p.name, p.ns, "v1", p.uid⟩

def ofOwner (o : Owner) : Subject := ⟨o.kind.text, o.name, o.ns, "apps/v1", o.uid⟩

end Subject

/-- An event; after it was made, its reason and its severity may be changed to anything. -/
structure Event where
  reason : Document
  severity : Document
  subject : Subject
  message : String
  /-- When it happened, if that was noted. -/
  time : Option Instant
deriving DecidableEq

inductive EventFlaw where
  /-- A reason of a kind that cannot be looked up. -/
  | unusableReason
  | unknownReason (reason : Document)
  | namelessSubject
deriving DecidableEq

def EventFlaw.fault : EventFlaw → Fault
  | .unusableReason => .wrongKind
  | .unknownReason r => .invalid ("Invalid event reason: " ++ r.plain)
  | .namelessSubject => .invalid "Event must reference an object"

namespace Event

def normal : String := "Normal"

def warning : String := "Warning"

def make (reason : Reason) (severity : String) (subject : Subject) (message : String) : Event :=
  ⟨.text reason.text, .text severity, subject, message, none⟩

def flaw? (e : Event) : Option EventFlaw :=
  if !e.reason.isKey then some .unusableReason
  else if (Reason.ofDocument? e.reason).isNone then some (.unknownReason e.reason)
  else if !e.subject.name.isTruthy then some .namelessSubject
  else none

def nodeDegraded (n : Node) : Event :=
  make .nodeDegraded normal (.ofNode n) ("Node " ++ n.name.plain ++ " marked as degraded")

def evictionSkipped (p : Pod) (o : Owner) (deadline : String) : Event :=
  make .evictionSkipped normal (.ofPod p)
    ("Pod " ++ p.name.plain ++ " skipped due to owner " ++ o.name.plain ++ " being in cooldown until " ++
      deadline)

def budgetViolation (p : Pod) (reason : String) : Event :=
  make .budgetViolation normal (.ofPod p)
    ("Pod " ++ p.name.plain ++ " cannot be evicted due to PDB violation: " ++ reason)

def budgetCheckFailed (p : Pod) (error : String) : Event :=
  make .budgetViolation warning (.ofPod p)
    ("Pod " ++ p.name.plain ++ " not evicted, PDB check failed: " ++ error)

def podEvicted (p : Pod) (node : Document) : Event :=
  make .podEvicted normal (.ofPod p)
    ("Pod " ++ p.name.plain ++ " evicted from degraded node " ++ node.plain)

def evictionRateLimited (p : Pod) : Event :=
  make .evictionRateLimited warning (.ofPod p)
    ("Eviction of pod " ++ p.name.plain ++ " rate limited by K8s API server")

def evictionFailed (p : Pod) (error : String) : Event :=
  make .evictionFailed warning (.ofPod p) ("Failed to evict pod " ++ p.name.plain ++ ": " ++ error)

def cooldownSet (o : Owner) (deadline : String) : Event :=
  make .cooldownSet normal (.ofOwner o)
    ("Cooldown set on owner " ++ o.name.plain ++ " until " ++ deadline)

def cooldownFailed (o : Owner) (error : String) : Event :=
  make .cooldownFailed warning (.ofOwner o)
    ("Failed to add cooldown annotation to owner " ++ o.name.plain ++ ": " ++ error)

end Event

end NodeRelief
