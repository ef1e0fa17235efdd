import NodeRelief.Plan

/-!
# Eviction

Asking for an eviction and sorting the answer: accepted, put off by a rate limit, or failed.
-/

namespace NodeRelief

inductive EvictionOutcome where
  | evicted
  | rateLimited (message : String)
  | failed (message : String)
deriving DecidableEq, Repr

namespace EvictionOutcome

def text : EvictionOutcome → String
  | .evicted => "EVICTED"
  | .rateLimited _ => "RATE_LIMITED"
  | .failed _ => "FAILED"

def error? : EvictionOutcome → Option String
  | .evicted => none
  | .rateLimited m | .failed m => some m

end EvictionOutcome

namespace Eviction

def request (p : Pod) (gracePeriod : Document) : Plan EvictionOutcome := do
  match ← Plan.call (.evict p gracePeriod) with
  | .ok () => return .evicted
  | .error (.rateLimited message) => return .rateLimited message
  | .error (.eviction message) | .error (.evictionFailed message) => return .failed message
  | .error f => .fail f

/-- What is told of a failure that says nothing about itself. -/
def told (message : String) : String := if message = "" then "unknown error" else message

end Eviction

end NodeRelief
