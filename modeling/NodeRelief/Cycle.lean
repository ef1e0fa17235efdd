import NodeRelief.Config
import NodeRelief.Cycle.Admission
import NodeRelief.Cycle.Eviction
import NodeRelief.Ranking

/-!
# The cycle

One pass over the degraded nodes: the active pods of each are ranked, and the admitted ones evicted
in that order, as many as the configuration allows. The owner of an evicted pod goes into cooldown.
-/

namespace NodeRelief

structure CycleResult where
  /-- The delay before the next cycle. -/
  requeueAfter : Duration
  /-- The keys of the evicted pods, in order. -/
  evicted : List String
  rateLimited : Bool
  cancelled : Bool
  error : Option String
deriving DecidableEq

/-- How the walk over the pods of a node ended. -/
inductive WalkEnd where
  | finished
  | rateLimited
  | cancelled
deriving DecidableEq, Repr

/-- The keys of the pods evicted from a node, in order, and how the walk over its pods ended. -/
structure Walk where
  evicted : List String
  ending : WalkEnd
deriving DecidableEq, Repr

namespace Cycle

def recheck (c : Config) (evicted : List String) (cancelled : Bool) (error : Option String) :
    CycleResult :=
  ⟨c.recheckInterval, evicted, false, cancelled, error⟩

def isDegraded (c : Config) (n : Node) : Bool := n.annotations.hasKey c.degradedMark

/-- The degraded ones of the nodes; a mark that cannot be a key is asked for on no node. -/
def degraded (c : Config) (nodes : List Node) : Except Fault (List Node) :=
  Fault.ifKey (nodes.isEmpty || c.degradedMark.isKey) (nodes.filter (isDegraded c))

/-- The active pods on a node. -/
def candidates (n : Node) (pods : List Pod) : List Pod :=
  pods.filter fun p => p.node.equals n.name && p.isActive

/-- Whether a pod is considered for eviction at all. -/
def isEligible (c : Config) (profiles : ProfileStore) (p : Pod) : Bool :=
  (p.profile? profiles c.workloadLabel).isSome || c.evictsUnprofiled

/-- What follows the eviction of a pod: its owner goes into cooldown. -/
def coolDown (c : Config) (owner : Option Owner) : Plan Unit :=
  match owner with
  | none => pure ()
  | some o => do
    let now ← Plan.clock
    let _ ← Cooldown.record c.cooldownMark c.recheckInterval o now
    return ()

/-- Walks down the ranked pods of a node. `taken` are the keys of those evicted so far. -/
def walk (c : Config) (profiles : ProfileStore) (n : Node) (taken : List String) :
    List Pod → Plan Walk
  | [] => pure ⟨taken, .finished⟩
  | p :: rest => do
    if c.isSpent taken.length then return ⟨taken, .finished⟩
    if ← Plan.cancelled then return ⟨taken, .cancelled⟩
    if !isEligible c profiles p then return ← walk c profiles n taken rest
    let decision ← Admission.evaluate c.cooldownMark p (← Plan.clock)
    if !decision.admitted then return ← walk c profiles n taken rest
    match ← Eviction.request p c.gracePeriod with
    | .rateLimited _ =>
      Plan.record (.evictionRateLimited p)
      return ⟨taken, .rateLimited⟩
    | .failed message =>
      Plan.record (.evictionFailed p (Eviction.told message))
      walk c profiles n taken rest
    | .evicted =>
      Plan.record (.podEvicted p n.name)
      coolDown c decision.owner
      if c.isSingle then return ⟨taken ++ [p.key], .finished⟩
      walk c profiles n (taken ++ [p.key]) rest

/-- Relieves one degraded node after the other. `evicted` are the keys of the pods evicted so far. -/
def relieve (c : Config) (profiles : ProfileStore) (pods : List Pod) (evicted : List String) :
    List Node → Plan CycleResult
  | [] =>
    pure (if evicted.isEmpty then recheck c [] false none
      else ⟨c.afterEviction, evicted, false, false, none⟩)
  | n :: rest =>
    if (candidates n pods).isEmpty then relieve c profiles pods evicted rest
    else do
      let ranked ← Plan.raise (Ranking.rank profiles c.workloadLabel (candidates n pods))
      let w ← walk c profiles n [] ranked
      let evicted := evicted ++ w.evicted
      match w.ending with
      | .rateLimited => return ⟨c.afterRateLimit, evicted, true, false, none⟩
      | .cancelled => return recheck c evicted true none
      | .finished =>
        if c.isSingle && !w.evicted.isEmpty then
          return ⟨c.afterEviction, evicted, false, false, none⟩
        relieve c profiles pods evicted rest

/-- One cycle with the profiles known at its start. -/
def reconcile (c : Config) (profiles : ProfileStore) : Plan CycleResult := do
  if profiles.isEmpty then return recheck c [] false none
  if ← Plan.cancelled then return recheck c [] true none
  match ← Plan.call .listNodes with
  | .error (.listing message) => return recheck c [] false (some message)
  | .error f => .fail f
  | .ok nodes =>
    let degraded ← Plan.raise (degraded c nodes)
    Plan.recordAll (degraded.map .nodeDegraded)
    if degraded.isEmpty then return recheck c [] false none
    if ← Plan.cancelled then return recheck c [] true none
    match ← Plan.call .listPods with
    | .error (.listing message) => return recheck c [] false (some message)
    | .error f => .fail f
    | .ok pods => relieve c profiles pods [] degraded

end Cycle

end NodeRelief
