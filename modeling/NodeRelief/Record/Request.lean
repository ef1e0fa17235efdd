import NodeRelief.Api.Request
import NodeRelief.Record.Writer

/-!
# Records of requests

The documents about requests to the API: the method that is called, its arguments in order, and its
arguments by name.
-/

namespace NodeRelief.Record

def ofEvictionBody (b : EvictionBody) : Document :=
  .object [("name", b.name), ("namespace", b.ns), ("grace_period_seconds", b.gracePeriod)]

def ofSubject (s : Subject) : Document :=
  .object [("api_version", .text s.apiVersion), ("kind", .text s.kind), ("name", s.name),
    ("namespace", s.ns), ("uid", s.uid)]

def ofEventBody (b : EventBody) : Document :=
  .object [("generate_name", .text b.nameStem), ("namespace", b.ns), ("involved", ofSubject b.subject),
    ("reason", b.reason), ("message", .text b.message), ("type", b.severity),
    ("count", ofNat b.count), ("component", b.component)]

/-- How the methods about a kind of owner end. -/
def ownerSuffix : OwnerKind → String
  | .deployment => "deployment"
  | .statefulSet => "stateful_set"
  | .replicaSet => "replica_set"

def method : Request → String
  | .listNodes => "list_node"
  | .listPods => "list_pod_for_all_namespaces"
  | .listBudgets _ => "list_namespaced_pod_disruption_budget"
  | .readOwner id => "read_namespaced_" ++ ownerSuffix id.kind
  | .patchOwner id _ => "patch_namespaced_" ++ ownerSuffix id.kind
  | .createEviction _ _ _ => "create_namespaced_pod_eviction"
  | .createEvent _ _ => "create_namespaced_event"

def arguments : Request → List Document
  | .listNodes | .listPods | .createEviction _ _ _ => []
  | .listBudgets ns => [ns]
  | .readOwner id => [id.name, id.ns]
  | .patchOwner id body => [id.name, id.ns, body]
  | .createEvent ns body => [ns, ofEventBody body]

def namedArguments : Request → List (String × Document)
  | .createEviction name ns body =>
    [("name", name), ("namespace", ns), ("body", ofEvictionBody body)]
  | _ => []

def ofSent (s : Sent) : Document :=
  .object [("method", .text (method s.request)), ("args", .list (arguments s.request)),
    ("kwargs", .object (namedArguments s.request ++ [("_request_timeout", s.timeout)]))]

end NodeRelief.Record
