import NodeRelief.Document.Mapping

/-!
# In place of a mapping

Where a mapping is expected, a document of any kind may be given. A text then has the texts in it, and
a list its items, as if they were keys, but holds nothing under them; other documents have no keys.
-/

namespace NodeRelief

inductive Holding where
  | mapping (m : Mapping)
  | document (d : Document)

instance : Coe Mapping Holding := ⟨.mapping⟩

namespace Holding

open NodeRelief.Text

/-- An object is the mapping of its fields. -/
def ofDocument : Document → Holding
  | .object fields => .mapping (.ofFields fields)
  | d => .document d

/-- Whether some characters stand one after the other among others. -/
def occursIn (part : List Char) : List Char → Bool
  | [] => part.isEmpty
  | c :: rest => part.isPrefixOf (c :: rest) || occursIn part rest

/-- Whether a document that is no object has a key. -/
def hasMember (k : Document) : Document → Except Fault Bool
  | .list items => .ok (items.any (·.equals k))
  | .text s =>
    match k with
    | .text t => .ok (occursIn t.toList s.toList)
    | _ => .error .wrongKind
  | _ => .error .wrongKind

def has (h : Holding) (k : Document) : Except Fault Bool :=
  match h with
  | .mapping m => Fault.ifKey k.isKey (m.hasKey k)
  | .document d => hasMember k d

/-- What is held under a key that is there. -/
def item (h : Holding) (k : Document) : Except Fault Document :=
  match h with
  | .mapping m => Fault.ifKey k.isKey ((m.get? k).getD .null)
  | .document _ => .error .wrongKind

/-- What is held under a key, or `null`. -/
def get (h : Holding) (k : Document) : Except Fault Document :=
  match h with
  | .mapping m => Fault.ifKey k.isKey ((m.get? k).getD .null)
  | .document _ => .error .noField

/-- The mapping that is written by what is given. -/
def toMapping : Holding → Except Fault Mapping
  | .mapping m => .ok m
  | .document d => Mapping.ofDocument d

end Holding

/-- Takes in what is given in place of a mapping, up to the first part of it that is no entry. -/
def Mapping.update (m : Mapping) : Holding → Mapping × Except Fault Unit
  | .mapping entries => (m.merge entries, .ok ())
  | .document d => m.take d

end NodeRelief
