import NodeRelief.Cluster.Qos
import NodeRelief.Document.Order
import NodeRelief.Profile.Basic

/-!
# Ranking

The order in which the pods of a node are evicted: by quality of service, then the profiled ones,
then by the priority of their profiles. Pods that tie keep their order.
-/

namespace NodeRelief

namespace Pod

/-- The workload type that a label of the pod states. -/
def workload (p : Pod) (label : Document) : Document := (p.labels.get? label).getD .null

/-- The profile named by the workload type of a pod; a type of `null` is none. -/
def profile? (p : Pod) (profiles : ProfileStore) (label : Document) : Option Profile :=
  match p.workload label with
  | .null => none
  | name => profiles.find? name.canonical

end Pod

structure SortKey where
  rank : Int
  unprofiled : Int
  priority : Number
deriving DecidableEq, Repr

namespace SortKey

/-- The priority of a profile has to be a number; the higher one sorts first. -/
def make (qos : QosClass) (profile : Option Profile) : Except Fault SortKey :=
  match profile with
  | none => .ok ⟨-qos.rank, 1, .whole 0⟩
  | some p => p.priority.asNumber.map fun n => ⟨-qos.rank, 0, n.neg⟩

/-- Lexicographic order. -/
def lt (a b : SortKey) : Bool :=
  a.rank < b.rank ||
    (a.rank == b.rank &&
      (a.unprofiled < b.unprofiled || (a.unprofiled == b.unprofiled && a.priority.lt b.priority)))

def le (a b : SortKey) : Bool := !b.lt a

end SortKey

namespace Ranking

/-- A label or a workload type that is a list or an object is the name of nothing, and then there is
no key. -/
def sortKey (profiles : ProfileStore) (label : Document) (p : Pod) : Except Fault SortKey := do
  Fault.ifKey (label.isKey && (p.workload label).isKey) ()
  SortKey.make (← p.qos) (p.profile? profiles label)

def keyed (profiles : ProfileStore) (label : Document) (p : Pod) : Except Fault (SortKey × Pod) :=
  (sortKey profiles label p).map (·, p)

/-- The pods in the order of eviction. -/
def rank (profiles : ProfileStore) (label : Document) (pods : List Pod) : Except Fault (List Pod) :=
  (pods.mapM (keyed profiles label)).map fun keyed =>
    (keyed.mergeSort fun a b => a.1.le b.1).map Prod.snd

end Ranking

end NodeRelief
