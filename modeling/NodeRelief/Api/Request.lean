import NodeRelief.Event
import NodeRelief.Fault

/-!
# The API as a script

Requests to the API of a cluster, and an API that answers them one by one from a script, whatever
they ask for. When the script is used up, every further request gets the same last answer.
-/

namespace NodeRelief

/-- An event as it is created at the API. -/
structure EventBody where
  /-- The front part of the name that the event is given. -/
  nameStem : String
  ns : Document
  subject : Subject
  reason : Document
  message : String
  severity : Document
  count : Nat
  first : Option Instant
  last : Option Instant
  component : Document
deriving DecidableEq

structure EvictionBody where
  name : Document
  ns : Document
  gracePeriod : Document
deriving DecidableEq

/-- Complaints about the fields of a body that are there and are no texts. -/
def textComplaints (fields : List (String × Document)) : List Complaint.At :=
  fields.filterMap fun (name, d) =>
    match d with
    | .null | .text _ => none
    | _ => some ⟨[name], .notText⟩

/-- Complaints about a field that is there and is no whole number. -/
def integerComplaints (name : String) : Document → List Complaint.At
  | .null | .int _ => []
  | _ => [⟨[name], .notInteger⟩]

/-- Lets a part of a body through if nothing is wrong with it. -/
def unlessUnfit : List Complaint.At → Except Fault Unit
  | [] => .ok ()
  | complaints => .error (.unfit complaints)

/-- The body of a request to evict a pod; what is wrong with the pod's name comes first. -/
def EvictionBody.make (p : Pod) (gracePeriod : Document) : Except Fault EvictionBody := do
  unlessUnfit (textComplaints [("name", p.name), ("namespace", p.ns)])
  unlessUnfit (integerComplaints "grace_period_seconds" gracePeriod)
  return ⟨p.name, p.ns, gracePeriod⟩

/-- Where an event is to be kept is looked at first, then what it is about, then who tells it. -/
def EventBody.check (b : EventBody) : Except Fault EventBody := do
  unlessUnfit (textComplaints [("namespace", b.ns)])
  unlessUnfit (textComplaints
    [("name", b.subject.name), ("namespace", b.subject.ns), ("uid", b.subject.uid)])
  unlessUnfit (textComplaints [("component", b.component)])
  unlessUnfit (textComplaints [("reason", b.reason), ("type", b.severity)])
  return b

inductive Request where
  | listNodes
  | listPods
  | listBudgets (ns : Document)
  | readOwner (id : OwnerId)
  | patchOwner (id : OwnerId) (body : Document)
  | createEviction (name ns : Document) (body : EvictionBody)
  | createEvent (ns : Document) (body : EventBody)

/-- A request and the seconds it may take. -/
structure Sent where
  request : Request
  timeout : Document

structure Api where
  replies : List (Except Fault Document)
  /-- The answer once the script is used up. -/
  afterwards : Except Fault Document
  sent : List Sent

namespace Api

/-- An API whose requests fail in transport after the scripted ones. -/
def scripted (replies : List (Except Fault Document)) : Api :=
  ⟨replies, .error (.transport "no reply"), []⟩

/-- An API whose requests all succeed. -/
def obliging : Api := ⟨[], .ok .null, []⟩

def send (a : Api) (r : Request) (timeout : Document) : Except Fault Document × Api :=
  let sent := a.sent ++ [⟨r, timeout⟩]
  match a.replies with
  | [] => (a.afterwards, { a with sent })
  | reply :: rest => (reply, { a with replies := rest, sent })

end Api

/-- The faults that a request may meet on its way or at the API, and what is told of them. -/
def Fault.clientError? : Fault → Option String
  | .api status reason => some (status.plain ++ " " ++ reason.plain)
  | .transport text => some text
  | _ => none

end NodeRelief
