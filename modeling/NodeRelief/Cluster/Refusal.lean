import NodeRelief.Cluster.Object
import NodeRelief.Fault

/-!
# Refused calls

The faults that tell which call to a cluster was refused, and why.
-/

namespace NodeRelief.Fault

def nodesUnlisted (reason : String) : Fault := .listing ("failed to list nodes: " ++ reason)

def podsUnlisted (reason : String) : Fault := .listing ("failed to list pods: " ++ reason)

def budgetsUnlisted (ns : Document) (reason : String) : Fault :=
  .listing ("failed to list PodDisruptionBudgets in namespace " ++ ns.plain ++ ": " ++ reason)

def ownerUnread (id : OwnerId) (reason : String) : Fault :=
  .ownerLookup ("failed to get " ++ id.kind.text ++ " " ++ id.name.plain ++ ": " ++ reason)

def ownerUnpatched (o : Owner) (reason : String) : Fault :=
  .ownerPatch ("failed to patch " ++ o.key ++ ": " ++ reason)

/-- Why an eviction was not created. -/
def unevicted (p : Pod) (reason : String) : String :=
  "failed to create eviction for pod " ++ p.key ++ ": " ++ reason

end NodeRelief.Fault
