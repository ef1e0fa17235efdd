import NodeRelief.Cluster.Refusal
import NodeRelief.Scene

/-!
# Clusters in memory

The objects of a cluster, in order of arrival, and the faults that its calls are to meet. Names and
namespaces that cannot be keys are kept and looked for by no call. A failed call changes nothing,
unless it fails in the middle of what it takes in.
-/

namespace NodeRelief

/-- A call that can be made to fail, by what it is about. -/
inductive FailurePoint where
  | nodes
  | pods
  | budgets (ns : Document)
  | reading (id : OwnerId)
  | patching (id : OwnerId)
  | eviction (pod : Document)
deriving DecidableEq

namespace FailurePoint

def canonical : FailurePoint → FailurePoint
  | .budgets ns => .budgets ns.canonical
  | .reading id => .reading id.canonical
  | .patching id => .patching id.canonical
  | .eviction pod => .eviction pod.canonical
  | p => p

def isKey : FailurePoint → Bool
  | .budgets ns => ns.isKey
  | .reading id | .patching id => id.isKey
  | .eviction pod => pod.isKey
  | _ => true

end FailurePoint

/-- The faults that calls meet, by the canonical failure point. -/
abbrev Failures := FailurePoint → Option Fault

structure Cluster where
  nodes : Register Node.identity
  pods : Register Pod.key
  budgets : List Budget
  owners : Register Owner.identity
  failures : Failures

namespace Cluster

def empty : Cluster := ⟨.empty, .empty, [], .empty, fun _ => none⟩

/-! ## Changing what is there -/

def addNode (c : Cluster) (n : Node) : Except Fault Cluster :=
  Fault.ifKey n.name.isKey { c with nodes := c.nodes.put n }

def addPod (c : Cluster) (p : Pod) : Cluster := { c with pods := c.pods.put p }

def addBudget (c : Cluster) (b : Budget) : Cluster := { c with budgets := c.budgets ++ [b] }

def putOwner (c : Cluster) (o : Owner) : Cluster := { c with owners := c.owners.put o }

def addOwner (c : Cluster) (o : Owner) : Except Fault Cluster := Fault.ifKey o.id.isKey (c.putOwner o)

def owner? (c : Cluster) (id : OwnerId) : Option Owner := c.owners.find? id.canonical

def findOwner (c : Cluster) (id : OwnerId) : Except Fault (Option Owner) :=
  Fault.ifKey id.isKey (c.owner? id)

/-- Takes annotations in for an owner that is there, up to the first part of them that is no entry. -/
def annotated (c : Cluster) (o : Owner) (entries : Holding) : Except Fault Unit × Cluster :=
  let (annotations, outcome) := o.annotations.update entries
  (outcome, c.putOwner { o with annotations })

/-- Annotates an owner, which has to be there. -/
def annotate (c : Cluster) (id : OwnerId) (entries : Holding) : Except Fault Unit × Cluster :=
  match c.findOwner id with
  | .ok (some o) => c.annotated o entries
  | .ok none => (.error .noField, c)
  | .error f => (.error f, c)

/-! ## Failures -/

/-- Has a call fail from now on, or no longer. -/
def setFailure (c : Cluster) (point : FailurePoint) (f : Option Fault) : Except Fault Cluster :=
  Fault.ifKey point.isKey
    { c with failures := fun p => if p = point.canonical then f else c.failures p }

/-- The fault that a call meets. -/
def failure? (c : Cluster) (point : FailurePoint) : Except Fault (Option Fault) :=
  Fault.ifKey point.isKey (c.failures point.canonical)

/-! ## Calls -/

def listNodes (c : Cluster) : Except Fault (List Node) := do
  match ← c.failure? .nodes with
  | some f => .error (.nodesUnlisted f.message)
  | none => return c.nodes.items

def listPods (c : Cluster) : Except Fault (List Pod) := do
  match ← c.failure? .pods with
  | some f => .error (.podsUnlisted f.message)
  | none => return c.pods.items

def listBudgets (c : Cluster) (ns : Document) : Except Fault (List Budget) := do
  match ← c.failure? (.budgets ns) with
  | some f => .error (.budgetsUnlisted ns f.message)
  | none => return c.budgets.filter (·.ns.equals ns)

def readOwner (c : Cluster) (id : OwnerId) : Except Fault Owner := do
  match ← c.failure? (.reading id), c.owner? id with
  | some f, _ => .error (.ownerUnread id f.message)
  | none, none => .error (.ownerUnread id "not found")
  | none, some o => return o

/-- The stored owner that a patch is about. -/
def patchTarget (c : Cluster) (o : Owner) : Except Fault Owner := do
  match ← c.failure? (.patching o.id), c.owner? o.id with
  | some f, _ => .error (.ownerUnpatched o f.message)
  | none, none => .error (.ownerUnpatched o "not found")
  | none, some stored => return stored

def patchOwner (c : Cluster) (o : Owner) (entries : Holding) : Except Fault Unit × Cluster :=
  match c.patchTarget o with
  | .ok stored => c.annotated stored entries
  | .error f => (.error f, c)

def evict (c : Cluster) (p : Pod) : Except Fault Unit × Cluster :=
  match c.failures (.eviction (.text p.key)) with
  | some f => (.error f, c)
  | none => (.ok (), { c with pods := c.pods.remove p.key })

def answer : Backend Cluster
  | .listNodes, c => (c.listNodes, c)
  | .listPods, c => (c.listPods, c)
  | .listBudgets ns, c => (c.listBudgets ns, c)
  | .readOwner id, c => (c.readOwner id, c)
  | .annotateOwner o entries, c => c.patchOwner o entries
  | .evict p _, c => c.evict p

/-- The world of a cluster in memory. -/
def world : World (Scene Cluster) := Scene.world answer

end Cluster

end NodeRelief
