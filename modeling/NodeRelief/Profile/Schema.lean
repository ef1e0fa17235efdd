import NodeRelief.Checked
import NodeRelief.Complaint
import NodeRelief.Document
import NodeRelief.Number.Literal
import NodeRelief.Profile.Basic

/-!
# The schema of profiles

Reading a profile from a document. Every field has a tag, under which it is read first, and a name.
All that is wrong with the fields is reported, in the order of the schema.
-/

namespace NodeRelief

inductive ProfileFlaw where
  | notMapping (kind : String)
  | unexpectedKind (kind : String)
  | badFields (complaints : List Complaint.At)
deriving DecidableEq, Repr

namespace Schema

open Checked (both)

/-- What a field is read from: its tag if the object has it, else its name. -/
structure Field where
  tag : String
  name : String

def apiVersion : Field := ⟨"apiVersion", "api_version"⟩
def kind : Field := ⟨"kind", "kind"⟩
def metadata : Field := ⟨"metadata", "metadata"⟩
def spec : Field := ⟨"spec", "spec"⟩
def profileName : Field := ⟨"name", "name"⟩
def resourceVersion : Field := ⟨"resourceVersion", "resource_version"⟩
def cpuRequests : Field := ⟨"cpuRequests", "cpu_requests"⟩
def memoryRequests : Field := ⟨"memoryRequests", "memory_requests"⟩
def evictionPriority : Field := ⟨"evictionPriority", "eviction_priority"⟩

/-- The value of a field and the spelling it was found under. -/
def Field.find? (f : Field) (fields : List (String × Document)) : Option (String × Document) :=
  match Document.field? f.tag fields with
  | some d => some (f.tag, d)
  | none => (Document.field? f.name fields).map (f.name, ·)

/-- A value, or the complaints about it. -/
abbrev Reading (α : Type) := Checked Complaint.At α

def complain {α : Type} (path : List String) (c : Complaint) : Reading α := .error [⟨path, c⟩]

/-- A text or `null`. -/
def optionalText (path : List String) (f : Field) (fields : List (String × Document)) :
    Reading Document :=
  match f.find? fields with
  | none => .ok .null
  | some (_, .null) => .ok .null
  | some (_, .text s) => .ok (.text s)
  | some (spelling, _) => complain (path ++ [spelling]) .notText

def requiredText (path : List String) (f : Field) (fields : List (String × Document)) :
    Reading String :=
  match f.find? fields with
  | none => complain (path ++ [f.tag]) .missing
  | some (spelling, .text s) => if s = "" then complain (path ++ [spelling]) .emptyText else .ok s
  | some (spelling, _) => complain (path ++ [spelling]) .notText

/-- What a floating-point number has to stay below, in magnitude, to be taken for a whole one. -/
def wholeBound : Int := 9223372036854775808

/-- Whole numbers, truth values as 1 and 0, floating-point numbers without a fraction, and texts. -/
def integer : Document → Except Complaint Int
  | .int i => .ok i
  | .bool b => .ok (if b then 1 else 0)
  | .float x =>
    match x.toInt? with
    | some i => if -wholeBound < i ∧ i < wholeBound then .ok i else .error .hugeInteger
    | none => .error (if x.isFinite then .fractionalInteger else .notFinite)
  | .text s =>
    match Literal.int s with
    | .ok i => .ok i
    | .error .malformed => .error .unreadableInteger
    | .error .tooLong => .error .hugeInteger
  | _ => .error .notInteger

def requiredInteger (path : List String) (f : Field) (fields : List (String × Document)) :
    Reading Int :=
  match f.find? fields with
  | none => complain (path ++ [f.tag]) .missing
  | some (spelling, d) =>
    match integer d with
    | .ok i => .ok i
    | .error c => complain (path ++ [spelling]) c

/-- An object that has to be there, read by `inner`. -/
def requiredObject {α : Type} (f : Field) (fields : List (String × Document))
    (inner : List String → List (String × Document) → Reading α) : Reading α :=
  match f.find? fields with
  | none => complain [f.tag] .missing
  | some (spelling, .object inside) => inner [spelling] inside
  | some (spelling, _) => complain [spelling] .notObject

def identity (path : List String) (fields : List (String × Document)) :
    Reading (String × Document) :=
  both (requiredText path profileName fields) (optionalText path resourceVersion fields)

def demands (path : List String) (fields : List (String × Document)) :
    Reading (Document × Document × Int) :=
  both (optionalText path cpuRequests fields)
    (both (optionalText path memoryRequests fields) (requiredInteger path evictionPriority fields))

def profile (fields : List (String × Document)) : Reading Profile :=
  (both (optionalText [] apiVersion fields)
    (both (optionalText [] kind fields)
      (both (requiredObject metadata fields identity) (requiredObject spec fields demands)))).map
    fun (_, _, (name, version), cpu, memory, priority) =>
      ⟨.text name, .int priority, cpu, memory, version⟩

/-- The kind that documents of profiles may state. -/
def profileKind : String := "WorkloadProfile"

/-- The kind a document states if it is not one that a profile may have. -/
def unexpectedKind? (fields : List (String × Document)) : Option Document :=
  match Document.field? kind.name fields with
  | none => none
  | some .null => none
  | some (.text s) => if s = profileKind then none else some (.text s)
  | some d => some d

/-- The kind is looked at before anything else. -/
def decode : Document → Except ProfileFlaw Profile
  | .object fields =>
    match unexpectedKind? fields with
    | some d => .error (.unexpectedKind d.quoted)
    | none =>
      match profile fields with
      | .ok p => .ok p
      | .error complaints => .error (.badFields complaints)
  | d => .error (.notMapping d.kindName)

/-- The document of a profile, each field under its tag. -/
def encode (p : Profile) : Document :=
  .object [
    (kind.tag, .text profileKind),
    (metadata.tag, .object [(profileName.tag, p.name), (resourceVersion.tag, p.version)]),
    (spec.tag, .object [
      (cpuRequests.tag, p.cpu),
      (memoryRequests.tag, p.memory),
      (evictionPriority.tag, p.priority)])]

end Schema

def ProfileFlaw.message : ProfileFlaw → String
  | .notMapping kind => "expected a mapping, got " ++ kind
  | .unexpectedKind kind => "unexpected kind " ++ kind
  | .badFields _ => "invalid fields"

end NodeRelief
