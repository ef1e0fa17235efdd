import NodeRelief.Api.Reading
import NodeRelief.Api.Request
import NodeRelief.Cluster.Refusal
import NodeRelief.Scene

/-!
# Clusters behind an API

Every call becomes one request. A failure of the API or of the transport is told as a refused call;
any other fault, and an answer that cannot be read, comes through as it is. A body that the API does
not allow is never sent.
-/

namespace NodeRelief

structure Client where
  api : Api
  /-- Seconds that a request may take. -/
  timeout : Document

namespace Client

def send (c : Client) (r : Request) : Except Fault Document × Client :=
  let (reply, api) := c.api.send r c.timeout
  (reply.map Reading.entity, { c with api })

/-- Reads a reply with `read`; turns a client error into a fault with `refuse`. -/
def understand {α : Type} (refuse : String → Fault) (read : Document → Except Fault α)
    (reply : Except Fault Document) : Except Fault α :=
  match reply with
  | .ok d => read d
  | .error f =>
    match f.clientError? with
    | some reason => .error (refuse reason)
    | none => .error f

/-- The annotations in the form that a patch of an object takes; they have to be a mapping. -/
def patchBody (entries : Holding) : Except Fault Document := do
  return .object [("metadata", .object [("annotations", (← entries.toMapping).toObject)])]

/-- The status of a request that was made too often. -/
def tooMany : Int := 429

def isTooMany : Fault → Bool
  | .api status _ => status.agrees (.int tooMany)
  | _ => false

/-- What an eviction's reply means: only a rate limit is told apart from other client errors. -/
def evictionAnswer (p : Pod) (reply : Except Fault Document) : Except Fault Unit :=
  match reply with
  | .ok _ => .ok ()
  | .error f =>
    match f.clientError? with
    | some reason =>
      let message := Fault.unevicted p reason
      .error (if isTooMany f then .rateLimited message else .evictionFailed message)
    | none => .error f

def answer : Backend Client
  | .listNodes, c =>
    let (reply, c) := c.send .listNodes
    (understand .nodesUnlisted (Reading.listOf Reading.node) reply, c)
  | .listPods, c =>
    let (reply, c) := c.send .listPods
    (understand .podsUnlisted (Reading.listOf Reading.pod) reply, c)
  | .listBudgets ns, c =>
    let (reply, c) := c.send (.listBudgets ns)
    (understand (.budgetsUnlisted ns) (Reading.listOf Reading.budget) reply, c)
  | .readOwner id, c =>
    let (reply, c) := c.send (.readOwner id)
    (understand (.ownerUnread id) (Reading.owner id.kind) reply, c)
  | .annotateOwner o entries, c =>
    match patchBody entries with
    | .error f => (.error f, c)
    | .ok body =>
      let (reply, c) := c.send (.patchOwner o.id body)
      (understand (.ownerUnpatched o) (fun _ => .ok ()) reply, c)
  | .evict p gracePeriod, c =>
    match EvictionBody.make p gracePeriod with
    | .error f => (.error f, c)
    | .ok body =>
      let (reply, c) := c.send (.createEviction p.name p.ns body)
      (evictionAnswer p reply, c)

/-- The world of a cluster behind an API. -/
def world : World (Scene Client) := Scene.world answer

end Client

end NodeRelief
