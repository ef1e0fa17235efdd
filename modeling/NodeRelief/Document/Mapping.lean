import NodeRelief.Document.Access
import NodeRelief.Document.Canonical
import NodeRelief.Document.Printer
import NodeRelief.Register

/-!
# Mappings

Documents under documents. Keys of one value are one key, written as it was written first. A mapping
can be written as an object, or as a list of its entries.
-/

namespace NodeRelief

abbrev Mapping := Register (fun e : Document × Document => e.1.canonical)

namespace Mapping

def get? (m : Mapping) (k : Document) : Option Document := (m.find? k.canonical).map Prod.snd

def hasKey (m : Mapping) (k : Document) : Bool := m.has k.canonical

/-- The key as it is written in the mapping, or as it is given. -/
def spelling (m : Mapping) (k : Document) : Document := ((m.find? k.canonical).map Prod.fst).getD k

def set (m : Mapping) (k v : Document) : Mapping := m.put (m.spelling k, v)

def merge (m entries : Mapping) : Mapping := entries.items.foldl (fun m (k, v) => m.set k v) m

def ofPairs (pairs : List (Document × Document)) : Mapping :=
  pairs.foldl (fun m (k, v) => m.set k v) .empty

/-- The mapping of an object's fields. -/
def ofFields (fields : List (String × Document)) : Mapping :=
  ofPairs (fields.map fun (name, d) => (.text name, d))

/-- An entry written as a document of two parts; `place` is its place among the entries. -/
def entry (d : Document) (place : Nat) : Except Fault (Document × Document) := do
  match ← d.elements with
  | [key, value] => Fault.ifKey key.isKey (key, value)
  | parts =>
    .error (.invalid ("dictionary update sequence element #" ++ Text.numeral place ++
      " has length " ++ Text.numeral parts.length ++ "; 2 is required"))

/-- Takes in the entries from a place on, up to the first document that is none. -/
def takeEntries (m : Mapping) (place : Nat) : List Document → Mapping × Except Fault Unit
  | [] => (m, .ok ())
  | d :: rest =>
    match entry d place with
    | .ok (k, v) => (m.set k v).takeEntries (place + 1) rest
    | .error f => (m, .error f)

/-- Takes in a mapping that is written as an object or as a list of entries. -/
def take (m : Mapping) : Document → Mapping × Except Fault Unit
  | .object fields => (m.merge (.ofFields fields), .ok ())
  | d =>
    match d.elements with
    | .ok ds => m.takeEntries 0 ds
    | .error f => (m, .error f)

def ofDocument (d : Document) : Except Fault Mapping :=
  let (m, outcome) := Mapping.take .empty d
  outcome.map fun () => m

/-- The object with a field for every key; of two keys of one name the later one counts. -/
def toObject (m : Mapping) : Document :=
  .object (m.items.foldl (fun fields (k, v) => Register.putItem Prod.fst (k.fieldName, v) fields) [])

theorem canonical_spelling (m : Mapping) (k : Document) :
    (m.spelling k).canonical = k.canonical := by
  unfold spelling
  cases h : m.find? k.canonical with
  | none => rfl
  | some e => simpa using List.find?_some h

@[simp] theorem get?_set (m : Mapping) (k v j : Document) :
    (m.set k v).get? j = if k.agrees j then some v else m.get? j := by
  simp only [set, get?, Register.find?_put, canonical_spelling, Document.agrees]
  split <;> simp_all

theorem hasKey_eq_isSome_get? (m : Mapping) (k : Document) : m.hasKey k = (m.get? k).isSome := by
  simp [hasKey, get?, Register.has_eq_isSome_find?]

end Mapping

end NodeRelief
