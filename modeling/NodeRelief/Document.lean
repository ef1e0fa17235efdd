import NodeRelief.Number.Shortest
import NodeRelief.Text.Quoted

/-!
# Documents

Values of a data format with objects, lists, texts, numbers and truth values. An object keeps its
fields in order; of two fields of one name the first is read. An entity looks like an object but is a
thing of its own: it is there even without fields, and no other thing is it.
-/

namespace NodeRelief

inductive Document where
  | null
  | bool (b : Bool)
  | int (i : Int)
  | float (x : Binary64)
  | text (s : String)
  | list (items : List Document)
  | object (fields : List (String × Document))
  | entity (fields : List (String × Document))

namespace Document

instance : Inhabited Document := ⟨.null⟩

instance : Coe String Document := ⟨.text⟩

open NodeRelief.Text

/-! ## Equality -/

mutual

def same : Document → Document → Bool
  | .null, .null => true
  | .bool a, .bool b => a == b
  | .int a, .int b => a == b
  | .float a, .float b => decide (a = b)
  | .text a, .text b => a == b
  | .list as, .list bs => sameItems as bs
  | .object as, .object bs => sameFields as bs
  | .entity as, .entity bs => sameFields as bs
  | _, _ => false

def sameItems : List Document → List Document → Bool
  | [], [] => true
  | a :: as, b :: bs => same a b && sameItems as bs
  | _, _ => false

def sameFields : List (String × Document) → List (String × Document) → Bool
  | [], [] => true
  | (m, a) :: as, (n, b) :: bs => m == n && same a b && sameFields as bs
  | _, _ => false

end

mutual

theorem same_iff : (a b : Document) → (same a b = true ↔ a = b)
  | .null, b | .bool _, b | .int _, b | .float _, b | .text _, b => by cases b <;> simp [same]
  | .list as, b => by cases b <;> simp [same, sameItems_iff as]
  | .object as, b => by cases b <;> simp [same, sameFields_iff as]
  | .entity as, b => by cases b <;> simp [same, sameFields_iff as]

theorem sameItems_iff : (as bs : List Document) → (sameItems as bs = true ↔ as = bs)
  | [], bs => by cases bs <;> simp [sameItems]
  | a :: as, bs => by cases bs <;> simp [sameItems, same_iff a, sameItems_iff as]

theorem sameFields_iff :
    (as bs : List (String × Document)) → (sameFields as bs = true ↔ as = bs)
  | [], bs => by cases bs <;> simp [sameFields]
  | (m, a) :: as, bs => by
    cases bs <;> simp [sameFields, same_iff a, sameFields_iff as, Prod.ext_iff]

end

instance : DecidableEq Document := fun a b => decidable_of_iff _ (same_iff a b)

/-! ## Parts and kinds -/

/-- Zero, the empty text, list and object, `null` and `false` count as nothing. An entity never
does. -/
def isTruthy : Document → Bool
  | .null => false
  | .bool b => b
  | .int i => i != 0
  | .float x => !x.isZero
  | .text s => s != ""
  | .list items => !items.isEmpty
  | .object fields => !fields.isEmpty
  | .entity _ => true

def orElse (d alternative : Document) : Document := if d.isTruthy then d else alternative

def text? : Document → Option String
  | .text s => some s
  | _ => none

def field? (name : String) (fields : List (String × Document)) : Option Document :=
  (fields.find? (·.1 = name)).map Prod.snd

/-- The name of the kind of a document that is no object. -/
def kindName : Document → String
  | .null => "NoneType"
  | .bool _ => "bool"
  | .int _ => "int"
  | .float _ => "float"
  | .text _ => "str"
  | .list _ => "list"
  | .object _ | .entity _ => "dict"

/-! ## On one line -/

mutual

/-- The document on one line, its texts quoted. -/
def quoted : Document → String
  | .null => "None"
  | .bool b => if b then "True" else "False"
  | .int i => signedNumeral i
  | .float x => x.text
  | .text s => quote s
  | .list items => "[" ++ ", ".intercalate (quotedItems items) ++ "]"
  | .object fields => "\x7b" ++ ", ".intercalate (quotedFields fields) ++ "\x7d"
  | .entity fields => "\x7b" ++ ", ".intercalate (quotedFields fields) ++ "\x7d"

def quotedItems : List Document → List String
  | [] => []
  | d :: rest => d.quoted :: quotedItems rest

def quotedFields : List (String × Document) → List String
  | [] => []
  | (name, d) :: rest => (quote name ++ ": " ++ d.quoted) :: quotedFields rest

end

/-- A text as it stands, any other document quoted. -/
def plain : Document → String
  | .text s => s
  | d => d.quoted

end Document

end NodeRelief
