import NodeRelief.Complaint
import NodeRelief.Document

/-!
# Faults

What can go wrong, by cause. A fault that names an operation carries the text that tells about it;
`Fault.message` is that text.
-/

namespace NodeRelief

inductive Fault where
  /-- A failure of rebalancing that is none of the ones below. -/
  | rebalancing (text : String)
  | access (text : String)
  | listing (text : String)
  | ownerLookup (text : String)
  | ownerPatch (text : String)
  | eviction (text : String)
  | rateLimited (text : String)
  | evictionFailed (text : String)
  | malformedData (text : String)
  | invalidSelector (text : String)
  | malformedProfile (text : String)
  /-- A value that breaks a rule stated in the text. -/
  | invalid (text : String)
  | unexpected (text : String)
  | transport (text : String)
  | api (status reason : Document)
  | credentials (text : String)
  | interrupted (text : String)
  /-- An instant or a duration outside the range of the calendar. -/
  | outOfRange (text : String)
  /-- A document without the field read from it because it is no object. -/
  | noField
  /-- A document of a kind that cannot be used as it is. -/
  | wrongKind
  /-- A comparison with a signaling NaN. -/
  | incomparable
  /-- A body that the API's rules do not allow. -/
  | unfit (complaints : List Complaint.At)

namespace Fault

def message : Fault → String
  | .rebalancing t | .access t | .listing t | .ownerLookup t | .ownerPatch t | .eviction t
  | .rateLimited t | .evictionFailed t | .malformedData t | .invalidSelector t
  | .malformedProfile t | .invalid t | .unexpected t | .transport t | .credentials t
  | .interrupted t | .outOfRange t => t
  | .api status reason => "(" ++ status.plain ++ ")\nReason: " ++ reason.plain ++ "\n"
  | .noField => "no such field"
  | .wrongKind => "wrong kind of value"
  | .incomparable => "comparison involving a signaling NaN"
  | .unfit _ => "invalid body"

/-- An interruption ends everything that would outlive any other fault. -/
def isInterruption : Fault → Bool
  | .interrupted _ => true
  | _ => false

def beyondCalendar : Fault := .outOfRange "date value out of range"

/-- Lets something through whose key can be one. -/
def ifKey {α : Type} (isKey : Bool) (a : α) : Except Fault α :=
  if isKey then .ok a else .error .wrongKind

/-- The whole number nearest to `x`, which an infinity and a NaN do not have. -/
def nearest : Binary64 → Except Fault Int
  | .nan => .error (.invalid "cannot convert float NaN to integer")
  | x =>
    match x.nearest? with
    | some i => .ok i
    | none => .error (.outOfRange "cannot convert float infinity to integer")

/-- The result of an arithmetic that may leave the range of the calendar. -/
def orOutOfRange {α : Type} : Option α → Except Fault α
  | some a => .ok a
  | none => .error beyondCalendar

end Fault

end NodeRelief
