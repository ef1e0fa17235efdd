import NodeRelief.Plan

/-!
# Ownership

The owner of a pod is the first managed controller among its references; a replica set that a
deployment controls gives way to the deployment.
-/

namespace NodeRelief.Ownership

/-- The first reference of the pod that is a controller of a managed kind. -/
def reference? (p : Pod) : Option (OwnerKind × Document) :=
  p.owners.findSome? fun r =>
    if r.controller.isTruthy then (OwnerKind.ofDocument? r.kind).map (·, r.name) else none

/-- The deployment that controls an object, by name. -/
def parent? (o : Owner) : Option Document :=
  match controllerOf o.owners with
  | some r => if r.kind = .text OwnerKind.deployment.text then some r.name else none
  | none => none

/-- The owner of a pod, read in the pod's namespace; none without a managed controller. -/
def resolve (p : Pod) : Plan (Except Fault (Option Owner)) :=
  match reference? p with
  | none => pure (.ok none)
  | some (kind, name) => do
    match ← Plan.call (.readOwner ⟨kind, p.ns, name⟩) with
    | .error f => pure (.error f)
    | .ok owner =>
      match kind, parent? owner with
      | .replicaSet, some parent =>
        return (← Plan.call (.readOwner ⟨.deployment, p.ns, parent⟩)).map some
      | _, _ => pure (.ok (some owner))

end NodeRelief.Ownership
