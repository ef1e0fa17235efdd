import NodeRelief.Cluster.Selector
import NodeRelief.Cycle.Cooldown
import NodeRelief.Cycle.Ownership

/-!
# Admission

A pod may be evicted if its owner is not in cooldown and no disruption budget that selects the pod
is used up. The cooldown is checked first.
-/

namespace NodeRelief

inductive Rejection where
  | cooldown
  | budget
deriving DecidableEq, Repr

def Rejection.text : Rejection → String
  | .cooldown => "cooldown"
  | .budget => "disruption_budget"

structure Decision where
  owner : Option Owner
  /-- Why the pod may not be evicted, in kind and in words. -/
  rejection : Option (Rejection × String)
deriving DecidableEq

def Decision.admitted (d : Decision) : Bool := d.rejection.isNone

namespace Admission

/-- Whether a budget forbids evicting a pod with these labels; a malformed selector forbids nothing. -/
def forbids (b : Budget) (labels : Labels) : Except Fault Bool :=
  match selects b.selector labels with
  | .ok selected => .ok (selected && b.allowed.agrees (.int 0))
  | .error (.invalidSelector _) => .ok false
  | .error f => .error f

def violation (b : Budget) : String :=
  "eviction would violate PodDisruptionBudget " ++ b.name.plain ++ " (disruptionsAllowed: 0)"

/-- What the first of the budgets says that forbids evicting the pod. -/
def violated? (p : Pod) : List Budget → Except Fault (Option String)
  | [] => .ok none
  | b :: rest =>
    match forbids b p.labels with
    | .ok true => .ok (some (violation b))
    | .ok false => violated? p rest
    | .error f => .error f

def checkBudgets (p : Pod) : Plan (Except Fault (Option String)) := do
  return (← Plan.call (.listBudgets p.ns)).bind (violated? p)

/-- The owner, as far as it can be told: an owner that cannot be looked up counts as none. -/
def ownerOf (p : Pod) : Plan (Option Owner) := do
  match ← Ownership.resolve p with
  | .ok owner => return owner
  | .error (.ownerLookup _) => return none
  | .error f => .fail f

def cooldownOf (mark : Document) (owner : Option Owner) (now : Instant) :
    Except Fault (Option (Owner × Instant)) :=
  match owner with
  | none => .ok none
  | some o => (Cooldown.active mark o now).map (·.map (o, ·))

def decideBudgets (p : Pod) (owner : Option Owner) : Plan Decision := do
  match ← checkBudgets p with
  | .ok none => return ⟨owner, none⟩
  | .ok (some reason) =>
    Plan.record (.budgetViolation p reason)
    return ⟨owner, some (.budget, reason)⟩
  | .error (.listing message) =>
    Plan.record (.budgetCheckFailed p message)
    return ⟨owner, some (.budget, message)⟩
  | .error f => .fail f

/-- Whether the pod may be evicted now. -/
def evaluate (mark : Document) (p : Pod) (now : Instant) : Plan Decision := do
  let owner ← ownerOf p
  match ← Plan.raise (cooldownOf mark owner now) with
  | some (o, deadline) =>
    let text := Timestamp.write deadline
    Plan.record (.evictionSkipped p o text)
    return ⟨owner, some (.cooldown, "owner " ++ o.name.plain ++ " in cooldown until " ++ text)⟩
  | none => decideBudgets p owner

end Admission

end NodeRelief
