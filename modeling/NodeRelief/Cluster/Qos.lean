import NodeRelief.Cluster.Object
import NodeRelief.Quantity

/-!
# Quality of service

The class of a pod follows from what its containers request and what limits they have. Comparing
with a signaling NaN has no answer, nor has asking a document that is no object for an amount; then
there is no classification either.
-/

namespace NodeRelief

inductive QosClass where
  | guaranteed
  | burstable
  | bestEffort
deriving DecidableEq, Repr

namespace QosClass

def text : QosClass → String
  | .guaranteed => "Guaranteed"
  | .burstable => "Burstable"
  | .bestEffort => "BestEffort"

def all : List QosClass := [.guaranteed, .burstable, .bestEffort]

def ofDocument? (d : Document) : Option QosClass := all.find? (.text ·.text = d)

/-- The higher rank is evicted first. -/
def rank : QosClass → Nat
  | .bestEffort => 3
  | .burstable => 2
  | .guaranteed => 1

end QosClass

/-- The amount of a resource that a declaration names; zero where it names none. -/
def amount (declared : Document) (resource : String) : Except Fault Decimal :=
  if declared.isTruthy then (declared.part resource).map Quantity.ofDocument else .ok .zero

/-- Whether two amounts are equal. -/
def sameAmount (a b : Decimal) : Except Fault Bool :=
  match Decimal.equals? a b with
  | some same => .ok same
  | none => .error .incomparable

namespace Container

def declaresNothing (c : Container) : Bool := !c.requests.isTruthy && !c.limits.isTruthy

def resources : List String := ["cpu", "memory"]

/-- Whether the request of a resource is its limit. -/
def requestsLimit (c : Container) (resource : String) : Except Fault Bool := do
  sameAmount (← amount c.requests resource) (← amount c.limits resource)

/-- Whether the request of some resource differs from its limit. -/
def requestsDiffer (c : Container) : Except Fault Bool :=
  resources.anyM fun r => (c.requestsLimit r).map (!·)

def requestsZero (c : Container) : Except Fault Bool :=
  resources.anyM fun r => do sameAmount (← amount c.requests r) .zero

end Container

namespace QosClass

/-- Nothing declared by some container, or no container, is best effort. Otherwise a request that
differs from its limit is burstable. Otherwise a request of zero is best effort again, and what
remains is guaranteed. -/
def ofContainers (containers : List Container) : Except Fault QosClass := do
  if containers.isEmpty || containers.any (·.declaresNothing) then return .bestEffort
  else if ← containers.anyM Container.requestsDiffer then return .burstable
  else if ← containers.anyM Container.requestsZero then return .bestEffort
  else return .guaranteed

end QosClass

def Pod.qos (p : Pod) : Except Fault QosClass := QosClass.ofContainers p.containers

end NodeRelief
