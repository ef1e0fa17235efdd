import NodeRelief.Plan
import NodeRelief.Time.Timestamp

/-!
# Cooldown

After an eviction the owner of the pod carries a deadline in an annotation, and until then no other
of its pods is evicted. A new deadline is later than the one it replaces.
-/

namespace NodeRelief.Cooldown

/-- The instant that an annotation holds: none if it is empty or a text that denotes no instant. -/
def instant : Document → Except Fault (Option Instant)
  | .text t => Timestamp.read t
  | d => if d.isTruthy then .error .noField else .ok none

/-- The deadline in an owner's annotation. -/
def deadline (mark : Document) (o : Owner) : Except Fault (Option Instant) := do
  Fault.ifKey mark.isKey ()
  match o.annotations.get? mark with
  | none => return none
  | some d => instant d

/-- The deadline if it is still ahead. -/
def active (mark : Document) (o : Owner) (now : Instant) : Except Fault (Option Instant) :=
  (deadline mark o).map fun d => d.filter (now < ·)

/-- Twice the interval from now, to the second, or a second past the previous deadline's second if
that is later. -/
def next? (now : LocalTime) (interval : Duration) (previous : Option Instant) : Option Instant :=
  (interval.double?.bind now.add?).bind fun t =>
    let t := t.floorSecond
    match previous with
    | some p => if t ≤ p then p.floorSecond.nextSecond? else some t
    | none => some t

/-- Writes the next deadline to the owner; answers it, if it could be written, and the owner as it
then is. -/
def record (mark : Document) (interval : Duration) (o : Owner) (now : Instant) :
    Plan (Option Instant × Owner) := do
  let previous ← Plan.raise (deadline mark o)
  let t ← Plan.raise (Fault.orOutOfRange (next? (.utc now) interval previous))
  let text := Timestamp.write t
  let entries := Mapping.ofPairs [(mark, .text text)]
  match ← Plan.call (.annotateOwner o entries) with
  | .ok () =>
    Plan.record (.cooldownSet o text)
    return (some t, o.annotate entries)
  | .error (.ownerPatch message) =>
    Plan.record (.cooldownFailed o message)
    return (none, o)
  | .error f => .fail f

end NodeRelief.Cooldown
