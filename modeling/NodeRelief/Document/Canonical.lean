import NodeRelief.Document

/-!
# Documents as values

Two documents can be written differently and still have one value: a number may be whole or not by
its form, `true` and `false` are numbers too, and the order of an object's fields does not matter.
The canonical document stands for all documents of its value. Keys are told apart by their values,
and members of a list are found by them; a comparison of two documents takes a NaN for different
from everything.
-/

namespace NodeRelief.Document

mutual

/-- Numbers without a fraction become whole numbers, and the fields of objects are sorted. -/
def canonical : Document → Document
  | .bool b => .int (if b then 1 else 0)
  | .float x =>
    match x.toInt? with
    | some i => .int i
    | none => .float x
  | .list items => .list (canonicalItems items)
  | .object fields => .object ((canonicalFields fields).mergeSort fun a b => decide (a.1 ≤ b.1))
  | d => d

def canonicalItems : List Document → List Document
  | [] => []
  | d :: rest => d.canonical :: canonicalItems rest

def canonicalFields : List (String × Document) → List (String × Document)
  | [] => []
  | (name, d) :: rest => (name, d.canonical) :: canonicalFields rest

end

@[simp] theorem canonical_text (s : String) : canonical (.text s) = .text s := by simp [canonical]

/-- Whether two documents have one value. -/
def agrees (a b : Document) : Bool := decide (a.canonical = b.canonical)

@[simp] theorem agrees_iff {a b : Document} : a.agrees b = true ↔ a.canonical = b.canonical := by
  simp [agrees]

theorem agrees_text_iff {d : Document} {s : String} :
    d.agrees (.text s) = true ↔ d = .text s := by
  cases d <;> simp [canonical]
  split <;> simp

def isNaN : Document → Bool
  | .float .nan => true
  | _ => false

/-- Whether two documents are equal: they have one value, and it is no NaN. -/
def equals (a b : Document) : Bool := a.agrees b && !a.isNaN

/-- Lists and objects cannot be keys. -/
def isKey : Document → Bool
  | .list _ | .object _ => false
  | _ => true

end NodeRelief.Document
