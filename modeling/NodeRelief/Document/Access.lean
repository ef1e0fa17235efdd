import NodeRelief.Fault

/-!
# Access to documents

Parts of a document of which it is not known whether it is an object or a list at all.
-/

namespace NodeRelief.Document

/-- A field of an object, `null` if it is absent; anything but an object has no fields at all. -/
def part (name : String) : Document → Except Fault Document
  | .object fields | .entity fields => .ok ((field? name fields).getD .null)
  | _ => .error .noField

/-- The items of a list, the characters of a text, or the names of an object's fields. -/
def elements : Document → Except Fault (List Document)
  | .list ds => .ok ds
  | .text s => .ok (s.toList.map fun c => .text (String.singleton c))
  | .object fields => .ok (fields.map fun (name, _) => .text name)
  | _ => .error .wrongKind

end NodeRelief.Document
