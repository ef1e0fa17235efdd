import NodeRelief.Document.Holding

/-!
# Cluster objects

Nodes, pods, the controllers that own pods, and disruption budgets, as far as moving pods off a node
looks at them. They come from an API that does not promise that a field is there or holds a text, so
names, labels and the like are kept as the documents they are, and `null` where they are missing.
-/

namespace NodeRelief

/-- Labels or annotations. -/
abbrev Labels := Mapping

structure Node where
  name : Document
  annotations : Labels
  labels : Labels
  uid : Document
deriving DecidableEq

/-- What tells one node from another. -/
def Node.identity (n : Node) : Document := n.name.canonical

structure OwnerReference where
  kind : Document
  name : Document
  /-- Whether it is a controller, told by any document that counts as something. -/
  controller : Document
  apiVersion : Document
  uid : Document
deriving DecidableEq

/-- The first of the references that is a controller. -/
def controllerOf (references : List OwnerReference) : Option OwnerReference :=
  references.find? (·.controller.isTruthy)

/-- What a container asks for and is held to: objects with an amount for each resource. A document that
counts as nothing declares nothing. -/
structure Container where
  name : Document
  requests : Document
  limits : Document
deriving DecidableEq

inductive PodPhase where
  | pending
  | running
  | succeeded
  | failed
  | unknown
deriving DecidableEq, Repr

namespace PodPhase

def text : PodPhase → String
  | .pending => "Pending"
  | .running => "Running"
  | .succeeded => "Succeeded"
  | .failed => "Failed"
  | .unknown => "Unknown"

def all : List PodPhase := [.pending, .running, .succeeded, .failed, .unknown]

/-- The phase of a name; anything else is the unknown phase. -/
def ofDocument (d : Document) : PodPhase := (all.find? (.text ·.text = d)).getD .unknown

end PodPhase

structure Pod where
  name : Document
  ns : Document
  /-- The name of the node that the pod is assigned to. -/
  node : Document
  phase : PodPhase
  containers : List Container
  labels : Labels
  owners : List OwnerReference
  uid : Document
deriving DecidableEq

namespace Pod

def key (p : Pod) : String := p.ns.plain ++ "/" ++ p.name.plain

/-- Pods that run or wait to run. -/
def isActive (p : Pod) : Bool := p.phase == .running || p.phase == .pending

end Pod

/-- The kinds of controllers whose pods may be moved. -/
inductive OwnerKind where
  | deployment
  | statefulSet
  | replicaSet
deriving DecidableEq, Repr

namespace OwnerKind

def text : OwnerKind → String
  | .deployment => "Deployment"
  | .statefulSet => "StatefulSet"
  | .replicaSet => "ReplicaSet"

def all : List OwnerKind := [.deployment, .statefulSet, .replicaSet]

def ofDocument? (d : Document) : Option OwnerKind := all.find? (.text ·.text = d)

end OwnerKind

/-- What an owner is looked up by. -/
structure OwnerId where
  kind : OwnerKind
  ns : Document
  name : Document
deriving DecidableEq

namespace OwnerId

def canonical (id : OwnerId) : OwnerId := ⟨id.kind, id.ns.canonical, id.name.canonical⟩

def isKey (id : OwnerId) : Bool := id.ns.isKey && id.name.isKey

end OwnerId

structure Owner where
  kind : OwnerKind
  name : Document
  ns : Document
  annotations : Labels
  owners : List OwnerReference
  uid : Document
  resourceVersion : Document
deriving DecidableEq

namespace Owner

def id (o : Owner) : OwnerId := ⟨o.kind, o.ns, o.name⟩

/-- What tells one owner from another. -/
def identity (o : Owner) : OwnerId := o.id.canonical

def key (o : Owner) : String := o.kind.text ++ "/" ++ o.ns.plain ++ "/" ++ o.name.plain

def annotate (o : Owner) (entries : Labels) : Owner :=
  { o with annotations := o.annotations.merge entries }

end Owner

/-- A condition on one label; the operator is kept as it was written. -/
structure Requirement where
  key : Document
  operator : Document
  values : List Document
deriving DecidableEq

structure Selector where
  labels : Labels
  requirements : List Requirement
deriving DecidableEq

structure Budget where
  name : Document
  ns : Document
  selector : Option Selector
  /-- How many more pods may be evicted now. -/
  allowed : Document
deriving DecidableEq

end NodeRelief
