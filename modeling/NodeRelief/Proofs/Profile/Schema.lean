import NodeRelief.Profile.Feed
import NodeRelief.Proofs.Fault
import NodeRelief.Proofs.Register

/-! # Profiles written and read

A profile can be told in many documents: each field under its tag or under its name, what is optional as
`null` or not at all, and anything else besides. Whatever the document, it is read as that profile; and a
profile that was read can be written and read again. -/

namespace NodeRelief.Schema

/-! ## Fields -/

section

variable {name : String} {d : Document} {fields : List (String × Document)}

theorem field?_eq_some_iff (distinct : (fields.map Prod.fst).Nodup) :
    Document.field? name fields = some d ↔ (name, d) ∈ fields := by
  rw [Document.field?, Option.map_eq_some_iff]
  simp only [Register.find?_key_eq_some_iff distinct]
  constructor
  · rintro ⟨field, ⟨hfield, rfl⟩, rfl⟩
    exact hfield
  · exact fun hfield => ⟨_, ⟨hfield, rfl⟩, rfl⟩

theorem field?_eq_none (absent : name ∉ fields.map Prod.fst) : Document.field? name fields = none := by
  rw [Document.field?, Option.map_eq_none_iff, List.find?_eq_none]
  intro field hfield
  rw [decide_eq_true_eq]
  rintro rfl
  exact absent (List.mem_map_of_mem hfield)

end

namespace Field

variable (f : Field) (fields : List (String × Document))

/-- The value of a field, under its tag or else under its name. -/
inductive Stands (d : Document) : Prop where
  | tagged (h : (f.tag, d) ∈ fields)
  | named (h : (f.name, d) ∈ fields) (untagged : f.tag ∉ fields.map Prod.fst)

/-- The text of a field that may be `null` or left out. -/
inductive Optional : Option String → Prop where
  | text (s : String) (h : f.Stands fields (.text s)) : Optional (some s)
  | null (h : f.Stands fields .null) : Optional none
  | absent (untagged : f.tag ∉ fields.map Prod.fst) (unnamed : f.name ∉ fields.map Prod.fst) :
      Optional none

variable {f fields}

theorem Stands.find?_eq {d : Document} (h : f.Stands fields d) (distinct : (fields.map Prod.fst).Nodup) :
    ∃ spelling, f.find? fields = some (spelling, d) := by
  cases h with
  | tagged h => exact ⟨f.tag, by rw [find?, (field?_eq_some_iff distinct).mpr h]⟩
  | named h untagged =>
      refine ⟨f.name, ?_⟩
      rw [find?, field?_eq_none untagged, (field?_eq_some_iff distinct).mpr h]
      rfl

end Field

/-- A text, or `null` in place of it. -/
def ofOption : Option String → Document
  | some s => .text s
  | none => .null

section

variable {path : List String} {f : Field} {fields : List (String × Document)}

theorem optionalText_eq {text : Option String} (h : f.Optional fields text)
    (distinct : (fields.map Prod.fst).Nodup) : optionalText path f fields = .ok (ofOption text) := by
  rw [optionalText]
  cases h with
  | text s h =>
      obtain ⟨spelling, found⟩ := h.find?_eq distinct
      rw [found]
      rfl
  | null h =>
      obtain ⟨spelling, found⟩ := h.find?_eq distinct
      rw [found]
      rfl
  | absent untagged unnamed =>
      rw [Field.find?, field?_eq_none untagged, field?_eq_none unnamed]
      rfl

theorem requiredText_eq {s : String} (h : f.Stands fields (.text s)) (named : s ≠ "")
    (distinct : (fields.map Prod.fst).Nodup) : requiredText path f fields = .ok s := by
  obtain ⟨spelling, found⟩ := h.find?_eq distinct
  simp only [requiredText, found, if_neg named]

theorem requiredInteger_eq {i : Int} (h : f.Stands fields (.int i))
    (distinct : (fields.map Prod.fst).Nodup) : requiredInteger path f fields = .ok i := by
  obtain ⟨spelling, found⟩ := h.find?_eq distinct
  rw [requiredInteger, found]
  rfl

theorem requiredObject_eq {α : Type} {inside : List (String × Document)} {a : α}
    {inner : List String → List (String × Document) → Reading α}
    (h : f.Stands fields (.object inside)) (read : ∀ path, inner path inside = .ok a)
    (distinct : (fields.map Prod.fst).Nodup) : requiredObject f fields inner = .ok a := by
  obtain ⟨spelling, found⟩ := h.find?_eq distinct
  simp only [requiredObject, found, read]

end

/-! ## Profiles -/

/-- What a document can tell of a profile. -/
structure Told where
  name : String
  named : name ≠ ""
  priority : Int
  cpu : Option String
  memory : Option String
  version : Option String

namespace Told

variable (t : Told)

def profile : Profile :=
  ⟨.text t.name, .int t.priority, ofOption t.cpu, ofOption t.memory, ofOption t.version⟩

/-- The fields of the metadata tell the name and the version. -/
structure Identity (fields : List (String × Document)) : Prop where
  distinct : (fields.map Prod.fst).Nodup
  name : profileName.Stands fields (.text t.name)
  version : resourceVersion.Optional fields t.version

/-- The fields of the specification tell the rest. -/
structure Demands (fields : List (String × Document)) : Prop where
  distinct : (fields.map Prod.fst).Nodup
  cpu : cpuRequests.Optional fields t.cpu
  memory : memoryRequests.Optional fields t.memory
  priority : evictionPriority.Stands fields (.int t.priority)

/-- The fields of a document tell the profile, whatever other fields there are. -/
structure Carried (fields : List (String × Document)) : Prop where
  distinct : (fields.map Prod.fst).Nodup
  apiVersion : ∃ version, Schema.apiVersion.Optional fields version
  kind : ∃ kind, Schema.kind.Optional fields kind ∧ ∀ s ∈ kind, s = profileKind
  metadata : ∃ inside, Schema.metadata.Stands fields (.object inside) ∧ t.Identity inside
  spec : ∃ inside, Schema.spec.Stands fields (.object inside) ∧ t.Demands inside

variable {t} {fields : List (String × Document)}

theorem Identity.identity_eq (h : t.Identity fields) (path : List String) :
    identity path fields = .ok (t.name, ofOption t.version) :=
  Checked.both_eq_ok_iff.mpr
    ⟨requiredText_eq h.name t.named h.distinct, optionalText_eq h.version h.distinct⟩

theorem Demands.demands_eq (h : t.Demands fields) (path : List String) :
    demands path fields = .ok (ofOption t.cpu, ofOption t.memory, t.priority) :=
  Checked.both_eq_ok_iff.mpr ⟨optionalText_eq h.cpu h.distinct, Checked.both_eq_ok_iff.mpr
    ⟨optionalText_eq h.memory h.distinct, requiredInteger_eq h.priority h.distinct⟩⟩

namespace Carried

theorem unexpectedKind?_eq (h : t.Carried fields) : unexpectedKind? fields = none := by
  obtain ⟨kind, stated, expected⟩ := h.kind
  -- The tag of this field is its name.
  have stands {d : Document} (h' : Schema.kind.Stands fields d) :
      Document.field? Schema.kind.name fields = some d := by
    cases h' with
    | tagged there => exact (field?_eq_some_iff h.distinct).mpr there
    | named there untagged => exact (field?_eq_some_iff h.distinct).mpr there
  rw [unexpectedKind?]
  cases stated with
  | text s there => simp [stands there, expected s rfl]
  | null there => rw [stands there]
  | absent untagged unnamed => rw [field?_eq_none unnamed]

theorem profile_eq (h : t.Carried fields) : Schema.profile fields = .ok t.profile := by
  obtain ⟨version, apiVersion⟩ := h.apiVersion
  obtain ⟨kind, stated, -⟩ := h.kind
  obtain ⟨inside, metadata, identity⟩ := h.metadata
  obtain ⟨inside', spec, demands⟩ := h.spec
  rw [Schema.profile, Checked.both_eq_ok_iff.mpr ⟨optionalText_eq apiVersion h.distinct,
    Checked.both_eq_ok_iff.mpr ⟨optionalText_eq stated h.distinct,
      Checked.both_eq_ok_iff.mpr ⟨requiredObject_eq metadata identity.identity_eq h.distinct,
        requiredObject_eq spec demands.demands_eq h.distinct⟩⟩⟩]
  rfl

theorem decode_eq (h : t.Carried fields) : decode (.object fields) = .ok t.profile := by
  simp only [decode, h.unexpectedKind?_eq, h.profile_eq]

end Carried

end Told

/-! ## Reading -/

section

variable {path : List String} {f : Field} {fields : List (String × Document)}

theorem exists_text {d : Document} (h : optionalText path f fields = .ok d) :
    ∃ text, d = ofOption text := by
  rw [optionalText] at h
  split at h
  · cases h
    exact ⟨none, rfl⟩
  · cases h
    exact ⟨none, rfl⟩
  · next s _ =>
    cases h
    exact ⟨some s, rfl⟩
  · cases h

theorem requiredText_ne_empty {s : String} (h : requiredText path f fields = .ok s) : s ≠ "" := by
  simp only [requiredText] at h
  split at h
  · cases h
  · next t _ =>
    split at h
    · cases h
    · next there =>
      cases h
      exact there
  · cases h

theorem exists_inner {α : Type} {a : α}
    {inner : List String → List (String × Document) → Reading α}
    (h : requiredObject f fields inner = .ok a) :
    ∃ spelling inside, inner [spelling] inside = .ok a := by
  simp only [requiredObject] at h
  split at h
  · cases h
  · exact ⟨_, _, h⟩
  · cases h

theorem told_of_profile {p : Profile} (h : profile fields = .ok p) : ∃ t : Told, p = t.profile := by
  simp only [profile, Except.map] at h
  split at h
  · cases h
  · next parts read =>
    obtain ⟨version, kind, ⟨name, resourceVersion⟩, cpu, memory, priority⟩ := parts
    simp only [Checked.both_eq_ok_iff] at read
    obtain ⟨-, -, metadata, spec⟩ := read
    obtain ⟨_, _, identity⟩ := exists_inner metadata
    obtain ⟨_, _, demands⟩ := exists_inner spec
    simp only [Schema.identity, Schema.demands, Checked.both_eq_ok_iff] at identity demands
    obtain ⟨version, rfl⟩ := exists_text identity.2
    obtain ⟨cpu, rfl⟩ := exists_text demands.1
    obtain ⟨memory, rfl⟩ := exists_text demands.2.1
    cases h
    exact ⟨⟨name, requiredText_ne_empty identity.1, priority, cpu, memory, version⟩, rfl⟩

end

/-- What is read can be told. -/
theorem told_of_decode {d : Document} {p : Profile} (h : decode d = .ok p) : ∃ t : Told, p = t.profile := by
  cases d with
  | object fields =>
      simp only [decode] at h
      split at h
      · cases h
      · split at h
        · next read =>
          cases h
          exact told_of_profile read
        · cases h
  | _ => cases h

/-- A profile that was read has a name. -/
theorem name_of_decode {d : Document} {p : Profile} (h : decode d = .ok p) :
    ∃ name, name ≠ "" ∧ p.name = .text name := by
  obtain ⟨t, rfl⟩ := told_of_decode h
  exact ⟨t.name, t.named, rfl⟩

/-! ## Writing -/

theorem Field.optional_of_mem {f : Field} {fields : List (String × Document)} {text : Option String}
    (h : (f.tag, ofOption text) ∈ fields) : f.Optional fields text := by
  cases text with
  | none => exact .null (.tagged h)
  | some s => exact .text s (.tagged h)

namespace Told

variable (t : Told)

theorem identity_written :
    t.Identity [(profileName.tag, t.profile.name), (resourceVersion.tag, t.profile.version)] where
  distinct := (by decide : ["name", "resourceVersion"].Nodup)
  name := .tagged (.head _)
  version := Field.optional_of_mem (.tail _ (.head _))

theorem demands_written :
    t.Demands [(cpuRequests.tag, t.profile.cpu), (memoryRequests.tag, t.profile.memory),
      (evictionPriority.tag, t.profile.priority)] where
  distinct := (by decide : ["cpuRequests", "memoryRequests", "evictionPriority"].Nodup)
  cpu := Field.optional_of_mem (.head _)
  memory := Field.optional_of_mem (.tail _ (.head _))
  priority := .tagged (.tail _ (.tail _ (.head _)))

/-- What is written carries the profile. -/
theorem exists_carried : ∃ fields, encode t.profile = .object fields ∧ t.Carried fields := by
  have unversioned : "apiVersion" ∉ ["kind", "metadata", "spec"] := by decide
  have unnamed : "api_version" ∉ ["kind", "metadata", "spec"] := by decide
  exact ⟨_, rfl, {
    distinct := (by decide : ["kind", "metadata", "spec"].Nodup)
    apiVersion := ⟨none, .absent unversioned unnamed⟩
    kind := ⟨some profileKind, .text _ (.tagged (.head _)), by simp⟩
    metadata := ⟨_, .tagged (.tail _ (.head _)), t.identity_written⟩
    spec := ⟨_, .tagged (.tail _ (.tail _ (.head _))), t.demands_written⟩ }⟩

end Told

theorem decode_encode (t : Told) : decode (encode t.profile) = .ok t.profile := by
  obtain ⟨fields, written, carried⟩ := t.exists_carried
  rw [written, carried.decode_eq]

/-- A profile is read from every document that carries it: under tags or names, with what is optional
`null` or left out, and with other fields anywhere. Every document is refused or read as a profile with a
name, which comes back when it is written and read again. -/
theorem profiles_survive :
    (∀ (t : Told) (fields : List (String × Document)),
      t.Carried fields → decode (.object fields) = .ok t.profile) ∧
    ∀ d : Document, (∃ flaw, decode d = .error flaw) ∨
      ∃ p name, decode d = .ok p ∧ p.name = .text name ∧ name ≠ "" ∧ decode (encode p) = .ok p := by
  refine ⟨fun t fields => Told.Carried.decode_eq, fun d => ?_⟩
  cases read : decode d with
  | error flaw => exact .inl ⟨flaw, rfl⟩
  | ok p =>
      obtain ⟨t, rfl⟩ := told_of_decode read
      exact .inr ⟨_, t.name, rfl, rfl, t.named, decode_encode t⟩

namespace Sample

def told : Told := ⟨"batch", by decide, -3, some "500m", none, some "42"⟩

def metadata : List (String × Document) :=
  [("labels", .object []), ("resource_version", .text "42"), ("name", .text "batch")]

def spec : List (String × Document) :=
  [("memoryRequests", .null), ("eviction_priority", .int (-3)), ("cpuRequests", .text "500m")]

/-- The profile under names and tags, with other fields. -/
def fields : List (String × Document) :=
  [("kind", .null), ("metadata", .object metadata), ("spec", .object spec), ("status", .list [])]

theorem carried : told.Carried fields where
  distinct := by decide
  apiVersion := ⟨none, .absent (by decide) (by decide)⟩
  kind := ⟨none, .null (.tagged (by decide)), by simp⟩
  metadata := ⟨metadata, .tagged (by decide), by decide, .tagged (by decide),
    .text _ (.named (by decide) (by decide))⟩
  spec := ⟨spec, .tagged (by decide), by decide, .text _ (.tagged (by decide)),
    .null (.tagged (by decide)), .named (by decide) (by decide)⟩

end Sample

open Sample in
theorem profiles_survive_sample :
    told.Carried fields ∧ decode (.object fields) = .ok told.profile ∧
      decode (encode told.profile) = .ok told.profile := by
  obtain ⟨read, whole⟩ := profiles_survive
  have decoded := read told fields carried
  refine ⟨carried, decoded, ?_⟩
  rcases whole (.object fields) with ⟨flaw, refused⟩ | ⟨p, name, same, -, -, again⟩
  · rw [decoded] at refused
    cases refused
  · cases decoded.symm.trans same
    exact again

end NodeRelief.Schema
