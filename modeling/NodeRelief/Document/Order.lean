import NodeRelief.Fault
import NodeRelief.Number

/-!
# The order of documents

Numbers are ordered by their values, truth values among them, and texts by their characters. Documents
of different or other kinds have no order.
-/

namespace NodeRelief.Document

/-- The number of a document; truth values count as 1 and 0. -/
def asNumber? : Document → Option Number
  | .bool b => some (.whole (if b then 1 else 0))
  | .int i => some (.whole i)
  | .float x => some (.fractional x)
  | _ => none

def asNumber (d : Document) : Except Fault Number :=
  match d.asNumber? with
  | some n => .ok n
  | none => .error .wrongKind

def ofNumber : Number → Document
  | .whole n => .int n
  | .fractional x => .float x

def comparable (a b : Document) : Bool :=
  (a.asNumber?.isSome && b.asNumber?.isSome) || (a.text?.isSome && b.text?.isSome)

/-- Whether one of two documents that compare comes before the other. -/
def precedes (a b : Document) : Bool :=
  match a.asNumber?, b.asNumber?, a, b with
  | some m, some n, _, _ => m.lt n
  | _, _, .text s, .text t => decide (s < t)
  | _, _, _, _ => false

def before (a b : Document) : Except Fault Bool :=
  if a.comparable b then .ok (a.precedes b) else .error .wrongKind

/-- The items in the order of their keys. Two or more have to have keys that compare. -/
def sortOn {α : Type} (key : α → Document) : List α → Except Fault (List α)
  | [] => .ok []
  | a :: rest =>
    if rest.all fun b => (key a).comparable (key b) then
      .ok ((a :: rest).mergeSort fun a b => !(key b).precedes (key a))
    else .error .wrongKind

@[simp] theorem precedes_int (m n : Int) : precedes (.int m) (.int n) = decide (m < n) := by
  simp [precedes, asNumber?]

@[simp] theorem precedes_text (s t : String) : precedes (.text s) (.text t) = decide (s < t) := by
  simp [precedes, asNumber?]

end NodeRelief.Document
