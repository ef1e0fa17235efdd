import NodeRelief.Proofs.Profile.Schema

/-! # Replaying profile changes

Whatever is told to a store of profiles, in whatever order, the last action that concerns a name decides
what the store has under that name. An action that cannot be read, or that is no change, concerns no
name; a list of all profiles concerns every name. -/

namespace NodeRelief

/-! ## Profiles that were read -/

namespace Feed

theorem profile?_eq_some_iff {d : Document} {p : Profile} :
    profile? d = some p ↔ Schema.decode d = .ok p := by
  rw [profile?]
  cases Schema.decode d <;> simp [Except.toOption]

/-! ## Actions -/

inductive Action where
  /-- An event of any kind. -/
  | apply (kind payload : Document)
  | add (payload : Document)
  | update (payload : Document)
  | delete (payload : Document)
  | resync (payloads : List Document)

namespace Action

/-- What a change of a profile leaves of it; a kind of event that is no change does not tell. -/
def leaves (p : Profile) : ChangeKind → Option (Option Profile)
  | .added | .modified => some (some p)
  | .deleted => some none
  | .bookmark | .unknown => none

/-- The last of the documents that tell a profile of this name. -/
def lastNamed (name : String) (ds : List Document) : Option Profile :=
  ((ds.filterMap profile?).filter (·.name = .text name)).getLast?

end Action

def perform (f : Feed) : Action → Except Fault Feed
  | .apply kind d => f.accept (.ofText kind) (.document d)
  | .add d => f.accept .added (.document d)
  | .update d => f.accept .modified (.document d)
  | .delete d => f.accept .deleted (.document d)
  | .resync ds => (f.resyncFrom (.list ds)).map Prod.fst

def lookup (f : Feed) (name : String) : Except Fault (Option Profile) := f.store.get (.text name)

/-! ## What actions do to a store -/

def change (s : ProfileStore) (kind : ChangeKind) (d : Document) : ProfileStore :=
  match profile? d with
  | none => s
  | some p =>
    match kind with
    | .added | .modified => s.put p
    | .deleted => s.remove p.key
    | .bookmark | .unknown => s

theorem store_apply (f : Feed) (kind : ChangeKind) (d : Document) :
    (f.apply kind (.document d)).store = change f.store kind d := by
  rw [change, profile?]
  cases kind with
  | bookmark | unknown => cases (Schema.decode d).toOption <;> rfl
  | added | modified | deleted =>
      simp only [apply, onUpdate, onAdd, onDelete, Payload.decode]
      cases Schema.decode d <;> rfl

section

variable (s : ProfileStore) (name : String)

theorem key_eq_text_iff {p : Profile} : p.key = .text name ↔ p.name = .text name := by
  rw [Profile.key, ← Document.agrees_text_iff (d := p.name), Document.agrees_iff,
    Document.canonical_text]

theorem find?_ofList_profiles (ps : List Profile) :
    (Register.ofList ps : ProfileStore).find? (.text name) =
      (ps.filter (·.name = .text name)).getLast? := by
  simp only [Register.find?_ofList, key_eq_text_iff]
  rw [← List.head?_filter, List.filter_reverse, List.head?_reverse]

end

/-! ## Names -/

theorem named_of_profile? {d : Document} {p : Profile} (h : profile? d = some p) :
    ∃ name, name ≠ "" ∧ p.name = .text name :=
  Schema.name_of_decode (profile?_eq_some_iff.mp h)

namespace Sample

def document (name : String) (priority : Int) : Document :=
  .object [
    ("metadata", .object [("name", .text name)]),
    ("spec", .object [("evictionPriority", .int priority)])]

/-- A list that tells one name twice, and something that is no profile. -/
def listed : Action :=
  .resync [document "web" 1, .null, document "web" 2, document "batch" 3]

def marked : Action := .apply (.text "BOOKMARK") (document "web" 9)

def modified : Action := .apply (.text "MODIFIED") (document "web" 4)

def deleted : Action := .delete (document "batch" 3)

end Sample

end Feed

end NodeRelief
