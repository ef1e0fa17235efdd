import NodeRelief.Document.Access
import NodeRelief.Profile.Schema

/-!
# The feed of profile changes

Changes to profiles, applied to a store one by one. A change that cannot be read is noted and leaves
the store as it is. What the schema reads has a text for its name; only a profile that is handed over
ready made can be refused for its name.
-/

namespace NodeRelief

/-- How serious a line of the log is. -/
inductive Level where
  | info
  | warning
  | error
deriving DecidableEq, Repr

def Level.text : Level → String
  | .info => "INFO"
  | .warning => "WARNING"
  | .error => "ERROR"

/-- What a change is about: a document still to be read, or a profile. -/
inductive Payload where
  | document (d : Document)
  | profile (p : Profile)

def Payload.decode : Payload → Except ProfileFlaw Profile
  | .document d => Schema.decode d
  | .profile p => .ok p

/-- Whether a payload is no ready profile whose name cannot be a key. -/
def Payload.hasKey : Payload → Bool
  | .document _ => true
  | .profile p => p.hasKey

inductive ChangeKind where
  | added
  | modified
  | deleted
  | bookmark
  | unknown
deriving DecidableEq, Repr

def ChangeKind.ofText : Document → ChangeKind
  | .text "ADDED" => .added
  | .text "MODIFIED" => .modified
  | .text "DELETED" => .deleted
  | .text "BOOKMARK" => .bookmark
  | _ => .unknown

/-- A store and the levels of what was noted about the changes to it. -/
structure Feed where
  store : ProfileStore
  notes : List Level

namespace Feed

def note (f : Feed) (l : Level) : Feed := { f with notes := f.notes ++ [l] }

def onAdd (f : Feed) (p : Payload) : Feed :=
  match p.decode with
  | .ok profile => { f with store := f.store.put profile }
  | .error _ => f.note .error

def onUpdate (f : Feed) (p : Payload) : Feed := f.onAdd p

def onDelete (f : Feed) (p : Payload) : Feed :=
  match p.decode with
  | .ok profile => { f with store := f.store.remove profile.key }
  | .error _ => f.note .error

def apply (f : Feed) (kind : ChangeKind) (p : Payload) : Feed :=
  match kind with
  | .added => f.onAdd p
  | .modified => f.onUpdate p
  | .deleted => f.onDelete p
  | .bookmark => f
  | .unknown => f.note .warning

/-- Whether a change looks for a name in the store. -/
def looksUp (f : Feed) : ChangeKind → Bool
  | .added | .modified => true
  | .deleted => !f.store.isEmpty
  | .bookmark | .unknown => false

/-- Applies a change unless it has to look for a name that cannot be a key. -/
def accept (f : Feed) (kind : ChangeKind) (p : Payload) : Except Fault Feed :=
  Fault.ifKey (p.hasKey || !f.looksUp kind) (f.apply kind p)

/-- The profile that a document tells. -/
def profile? (d : Document) : Option Profile := (Schema.decode d).toOption

/-- Replaces the whole store by the documents that can be read; answers how many those are. -/
def resync (f : Feed) (documents : List Document) : Feed × Nat :=
  let profiles := documents.filterMap profile?
  let unread := (documents.filter fun d => (profile? d).isNone).map fun _ => Level.error
  (⟨.ofList profiles, f.notes ++ unread⟩, profiles.length)

/-- Like `resync`, with what a document of any kind lists. -/
def resyncFrom (f : Feed) (d : Document) : Except Fault (Feed × Nat) := d.elements.map f.resync

end Feed

end NodeRelief
