import NodeRelief.Document.Canonical
import NodeRelief.Fault
import NodeRelief.Register

/-!
# Workload profiles

A profile tells how eagerly the pods of one workload type are evicted. A store holds the profiles by
their names. A profile that was not read by the schema may have any documents for its fields; if its
name cannot be a key, no store takes it.
-/

namespace NodeRelief

structure Profile where
  name : Document
  priority : Document
  cpu : Document
  memory : Document
  version : Document
deriving DecidableEq

namespace Profile

/-- What tells one profile from another. -/
def key (p : Profile) : Document := p.name.canonical

def hasKey (p : Profile) : Bool := p.name.isKey

end Profile

abbrev ProfileStore := Register Profile.key

namespace ProfileStore

def upsert (s : ProfileStore) (p : Profile) : Except Fault ProfileStore :=
  Fault.ifKey p.hasKey (s.put p)

/-- The profile of a name. -/
def get (s : ProfileStore) (name : Document) : Except Fault (Option Profile) :=
  Fault.ifKey name.isKey (s.find? name.canonical)

/-- The store without the profile of a name, and whether there was one. Nothing is looked for in an
empty store. -/
def drop (s : ProfileStore) (name : Document) : Except Fault (ProfileStore × Bool) :=
  Fault.ifKey (s.isEmpty || name.isKey) (s.remove name.canonical, s.has name.canonical)

/-- A store of these profiles only; of two with one name the later one stays. -/
def replaceAll (profiles : List Profile) : Except Fault ProfileStore :=
  Fault.ifKey (profiles.all (·.hasKey)) (Register.ofList profiles)

end ProfileStore

end NodeRelief
