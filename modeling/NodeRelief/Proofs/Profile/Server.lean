import NodeRelief.Profile.Watch
import NodeRelief.Proofs.Register
import Mathlib.Logic.Function.Basic

/-!
# The server of profiles

What a watch may rely on. A server goes through a history of changes, one after the other, each with a
version of its own. It answers a list with all that it holds and the version of its last change, and it
tells changes and positions as events.
-/

namespace NodeRelief

/-- A profile, and a document that it is read from. -/
structure Told where
  document : Document
  profile : Profile
  decodes : Schema.decode document = .ok profile

def Told.key (t : Told) : Document := t.profile.key

namespace Watch

open Document (part)

inductive Verb where
  | added
  | modified
  | deleted

def Verb.text : Verb → String
  | .added => "ADDED"
  | .modified => "MODIFIED"
  | .deleted => "DELETED"

/-- A change to one profile; what is deleted is told as it was. -/
structure Change where
  verb : Verb
  told : Told

namespace Change

/-- What a change leaves of the profile that it is about. -/
def leaves (c : Change) : Option Told :=
  match c.verb with
  | .added | .modified => some c.told
  | .deleted => none

/-- Whether an event tells a change. -/
structure Tells (c : Change) (event : Document) : Prop where
  kind : part "type" event = .ok (.text c.verb.text)
  object : part "object" event = .ok c.told.document

end Change

/-- `version p` is the version once `p` changes have happened. -/
structure Server where
  change : Nat → Change
  version : Nat → String
  own : version.Injective
  nonempty : ∀ p, version (p + 1) ≠ ""
  carried : ∀ p, versionOf (change p).told.document = .ok (.text (version (p + 1)))

namespace Server

variable (srv : Server)

/-- What the server holds under each key once so many changes have happened. -/
def held : Nat → Document → Option Told
  | 0 => fun _ => none
  | p + 1 => Function.update (held p) (srv.change p).told.key (srv.change p).leaves

/-- Whether `answer` lists what the server holds after `p` changes, with the version of it. -/
structure Lists (p : Nat) (listed : List Told) (answer : Document) : Prop where
  version : versionOf answer = .ok (.text (srv.version p))
  items : ∃ d, part "items" answer = .ok d ∧ d.orElse (.list []) = .list (listed.map Told.document)
  nodup : (listed.map Told.key).Nodup
  complete : ∀ t, t ∈ listed ↔ srv.held p t.key = some t

/-- Whether an event is a bookmark that carries the version after `p` changes. -/
structure Marks (p : Nat) (event : Document) : Prop where
  kind : part "type" event = .ok (.text "BOOKMARK")
  version : ∃ d, part "object" event = .ok d ∧ versionOf d = .ok (.text (srv.version p))

/-- Whether a store has exactly the profiles that the server holds after `p` changes. -/
def Mirrored (p : Nat) (store : ProfileStore) : Prop :=
  ∀ k, store.find? k = (srv.held p k).map Told.profile

variable {srv : Server}

theorem key_of_held {p : Nat} {k : Document} {t : Told} (h : srv.held p k = some t) : t.key = k := by
  induction p with
  | zero => cases h
  | succ p ih =>
      rw [held, Function.update_apply] at h
      split at h
      · next hk =>
        rw [Change.leaves] at h
        split at h
        · rw [← Option.some.inj h, hk]
        · rw [← Option.some.inj h, hk]
        · cases h
      · exact ih h

/-! ## Lists -/

theorem profile?_document (t : Told) : Feed.profile? t.document = some t.profile := by
  rw [Feed.profile?, t.decodes]
  rfl

theorem filterMap_profile? (listed : List Told) :
    (listed.map Told.document).filterMap Feed.profile? = listed.map Told.profile := by
  induction listed with
  | nil => rfl
  | cons t rest ih => simp [profile?_document, ih]

/-- A store filled from a list has what the server held when it answered. -/
theorem Lists.mirrored {p : Nat} {listed : List Told} {answer : Document}
    (h : srv.Lists p listed answer) : srv.Mirrored p (.ofList (listed.map Told.profile)) := by
  have hnodup : ((listed.map Told.profile).map Profile.key).Nodup := by
    rw [List.map_map]
    exact h.nodup
  intro k
  ext profile
  rw [Register.find?_ofList_eq_some_iff hnodup, List.mem_map, Option.map_eq_some_iff]
  constructor
  · rintro ⟨⟨t, ht, rfl⟩, rfl⟩
    exact ⟨t, (h.complete t).mp ht, rfl⟩
  · rintro ⟨t, ht, rfl⟩
    obtain rfl := key_of_held ht
    exact ⟨⟨t, (h.complete t).mpr ht, rfl⟩, rfl⟩

theorem Lists.relist {p : Nat} {listed : List Told} {answer : Document}
    (h : srv.Lists p listed answer) (w : Watch) :
    ∃ feed : Feed, srv.Mirrored p feed.store ∧
      relist (.ok answer) w = (.ok (.text (srv.version p)),
        { w.step (.listed w.settings.callTimeout w.store) with feed }) := by
  obtain ⟨d, hitems, helements⟩ := h.items
  refine ⟨(w.feed.resync (listed.map Told.document)).1, ?_, ?_⟩
  · rw [Feed.resync, filterMap_profile?]
    exact h.mirrored
  · simp only [Watch.relist, takeList, hitems, helements, Feed.resyncFrom, Document.elements,
      Except.map, h.version, step]

/-! ## Events -/

theorem apply_verb (v : Verb) (feed : Feed) (p : Payload) :
    feed.apply (.ofText (.text v.text)) p =
      match v with
      | .added | .modified => feed.onAdd p
      | .deleted => feed.onDelete p := by
  cases v <;> rfl

theorem find?_onAdd (feed : Feed) (t : Told) (k : Document) :
    (feed.onAdd (.document t.document)).store.find? k =
      if k = t.key then some t.profile else feed.store.find? k := by
  simp only [Feed.onAdd, Payload.decode, t.decodes, Register.find?_put, eq_comm (a := k)]
  rfl

theorem find?_onDelete (feed : Feed) (t : Told) (k : Document) :
    (feed.onDelete (.document t.document)).store.find? k =
      if k = t.key then none else feed.store.find? k := by
  simp only [Feed.onDelete, Payload.decode, t.decodes, Register.find?_remove]
  rfl

theorem find?_apply (feed : Feed) (c : Change) (k : Document) :
    (feed.apply (.ofText (.text c.verb.text)) (.document c.told.document)).store.find? k =
      if k = c.told.key then c.leaves.map Told.profile else feed.store.find? k := by
  rw [apply_verb, Change.leaves]
  cases c.verb with
  | added | modified => exact find?_onAdd ..
  | deleted => exact find?_onDelete ..

/-- One change brings a mirror of the server to the version of that change. -/
theorem Mirrored.apply {p : Nat} {feed : Feed} (h : srv.Mirrored p feed.store) :
    srv.Mirrored (p + 1)
      (feed.apply (.ofText (.text (srv.change p).verb.text))
        (.document (srv.change p).told.document)).store := by
  intro k
  rw [find?_apply, held, Function.update_apply, h k]
  split <;> rfl

theorem exists_fields (t : Told) : ∃ fields, t.document = .object fields := by
  have h := t.decodes
  rcases hd : t.document with _ | _ | _ | _ | _ | _ | fields | _
  case object => exact ⟨fields, rfl⟩
  all_goals
    rw [hd] at h
    cases h

theorem nextVersion_told {t : Told} {s : String} (hs : s ≠ "")
    (h : versionOf t.document = .ok (.text s)) (version : Document) :
    nextVersion version t.document = .ok (.text s) := by
  obtain ⟨fields, hfields⟩ := exists_fields t
  rw [hfields] at h ⊢
  rw [nextVersion, h]
  simp [Except.map, Document.orElse, Document.isTruthy, hs]

/-- A change is applied, and its version is the next to follow. -/
theorem onEvent_change {p : Nat} {e : Document} (h : (srv.change p).Tells e) {w : Watch}
    (hw : srv.Mirrored p w.store) (version : Document) :
    ∃ feed : Feed, srv.Mirrored (p + 1) feed.store ∧
      onEvent e version w = (.ok (.text (srv.version (p + 1))), { w with feed }) := by
  refine ⟨_, hw.apply, ?_⟩
  have hnext := nextVersion_told (srv.nonempty p) (srv.carried p) version
  simp only [onEvent, h.kind, h.object]
  split
  · next herror => cases hverb : (srv.change p).verb <;> simp [hverb, Verb.text] at herror
  · rw [hnext]

/-- A bookmark changes nothing, and carries the version reached. -/
theorem onEvent_mark {p : Nat} {e : Document} (h : srv.Marks p e) (w : Watch) :
    onEvent e (.text (srv.version p)) w = (.ok (.text (srv.version p)), w) := by
  obtain ⟨d, hobject, hversion⟩ := h.version
  have hnext : nextVersion (.text (srv.version p)) d = .ok (.text (srv.version p)) := by
    unfold nextVersion
    split
    · rw [hversion]
      simp [Except.map, Document.orElse]
    · rfl
  simp only [onEvent, h.kind, hobject, hnext]
  rfl

theorem onEvent_error {e : Document} (h : part "type" e = .ok (.text "ERROR"))
    (version : Document) (w : Watch) : ∃ f, onEvent e version w = (.error f, w) := by
  rw [onEvent, h]
  rcases part "object" e with f | d
  · exact ⟨f, rfl⟩
  · exact ⟨errorOf d, rfl⟩

end Server

end Watch

end NodeRelief
