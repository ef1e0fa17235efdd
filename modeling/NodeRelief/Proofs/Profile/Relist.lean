import NodeRelief.Proofs.Profile.Deeds
import NodeRelief.Proofs.Profile.Metadata
import NodeRelief.Proofs.Profile.Replay

/-! # Listing anew

What comes of an answer to a list call, whatever it is. The store is replaced by what the answer lists
as soon as that can be gone through; only then the version is looked for, and if the metadata are
no object the call fails with the new store in place. -/

namespace NodeRelief

/-! ## What an answer lists -/

namespace Document

/-- The items of a list. -/
def listed : Document → List Document
  | .list items => items
  | _ => []

/-- Whether it can be gone through as a list of items. -/
def isListable (d : Document) : Bool :=
  !d.isTruthy || match d with
    | .list _ | .text _ | .object _ => true
    | _ => false

theorem elements_orElse_of_not_isListable {d : Document} (h : d.isListable = false) :
    (d.orElse (.list [])).elements = .error .wrongKind := by
  obtain ⟨there, kind⟩ : d.isTruthy = true ∧ _ = false := by simpa [isListable] using h
  rw [orElse, if_pos there]
  cases d with
  | list | text | object => cases kind
  | _ => rfl

end Document

namespace Feed

theorem filterMap_profile?_texts {α : Type} (text : α → String) (l : List α) :
    (l.map fun a => Document.text (text a)).filterMap profile? = [] := by
  rw [List.filterMap_map, List.filterMap_eq_nil_iff]
  intro a _
  rfl

/-- The characters of a text and the names of an object's fields tell no profiles. -/
theorem elements_orElse {d : Document} (h : d.isListable = true) : ∃ ds,
    (d.orElse (.list [])).elements = .ok ds ∧
      ds.filterMap profile? = d.listed.filterMap profile? := by
  cases there : d.isTruthy with
  | false =>
      refine ⟨[], by rw [Document.orElse, there]; rfl, ?_⟩
      cases d with
      | list items =>
          obtain rfl : items = [] := by simpa [Document.isTruthy] using there
          rfl
      | _ => rfl
  | true =>
      rw [Document.orElse, if_pos there]
      cases d with
      | list items => exact ⟨items, rfl, rfl⟩
      | text s => exact ⟨_, rfl, filterMap_profile?_texts String.singleton s.toList⟩
      | object fields => exact ⟨_, rfl, filterMap_profile?_texts Prod.fst fields⟩
      | _ => simp [Document.isListable, there] at h

end Feed

namespace ProfileStore

/-- A store has exactly the profiles that documents tell, of those of one name the last. -/
def Holds (s : ProfileStore) (ds : List Document) : Prop :=
  ∀ p, p ∈ s.items ↔ ∃ name, Feed.Action.lastNamed name ds = some p

theorem holds_ofList (ds : List Document) :
    Holds (Register.ofList (ds.filterMap Feed.profile?)) ds := by
  intro p
  constructor
  · intro hp
    obtain ⟨d, -, read⟩ := List.mem_filterMap.mp (Register.mem_of_mem_ofList hp)
    obtain ⟨name, -, named⟩ := Feed.named_of_profile? read
    refine ⟨name, ?_⟩
    rw [Feed.Action.lastNamed, ← Feed.find?_ofList_profiles]
    exact (Register.find?_key_eq_some_iff (Register.nodup _)).mpr
      ⟨hp, (Feed.key_eq_text_iff name).mpr named⟩
  · rintro ⟨name, last⟩
    rw [Feed.Action.lastNamed, ← Feed.find?_ofList_profiles] at last
    exact (Register.mem_of_find? last).1

end ProfileStore

namespace Watch

/-! ## What comes of an answer -/

/-- The store of the profiles that an answer lists. -/
def filled (response : Document) : ProfileStore :=
  .ofList ((response.member "items").listed.filterMap Feed.profile?)

/-- What a list call comes to by its answer, and the store after it. -/
inductive Relists (s : ProfileStore) :
    Except Fault Document → Except Fault Document → ProfileStore → Prop
  | refused (f : Fault) : Relists s (.error f) (.error f) s
  | shapeless {response : Document} (fields : response.hasFields = false) :
      Relists s (.ok response) (.error .noField) s
  | unlistable {response : Document} (fields : response.hasFields = true)
      (items : (response.member "items").isListable = false) :
      Relists s (.ok response) (.error .wrongKind) s
  /-- The list is taken in before its version is looked for. -/
  | headless {response : Document} (fields : response.hasFields = true)
      (items : (response.member "items").isListable = true)
      (metadata : (response.member "metadata").isLegible = false) :
      Relists s (.ok response) (.error .noField) (filled response)
  | taken {response : Document} (fields : response.hasFields = true)
      (items : (response.member "items").isListable = true)
      (metadata : (response.member "metadata").isLegible = true) :
      Relists s (.ok response) (.ok ((response.member "metadata").member "resourceVersion"))
        (filled response)

theorem relists_takeList (answer : Except Fault Document) (w : Watch) :
    Relists w.store answer (takeList answer w).1 (takeList answer w).2.store := by
  cases answer with
  | error f => exact .refused f
  | ok response =>
      rw [takeList, Document.part_eq]
      cases fields : response.hasFields with
      | false => exact .shapeless fields
      | true =>
          simp only [if_true, Feed.resyncFrom]
          cases items : (response.member "items").isListable with
          | false =>
              rw [Document.elements_orElse_of_not_isListable items]
              exact .unlistable fields items
          | true =>
              obtain ⟨ds, elements, told⟩ := Feed.elements_orElse items
              rw [elements, versionOf_eq fields]
              have store : (w.feed.resync ds).1.store = filled response := by
                rw [Feed.resync, told]
                rfl
              simp only [Fault.ok_map, Watch.store, store]
              cases metadata : (response.member "metadata").isLegible with
              | false => exact .headless fields items metadata
              | true => exact .taken fields items metadata

theorem relists (answer : Except Fault Document) (w : Watch) :
    Relists w.store answer (relist answer w).1 (relist answer w).2.store :=
  relists_takeList answer w.listing

namespace Relists

variable {s s' : ProfileStore} {answer outcome : Except Fault Document}

theorem of_ok {version : Document} (h : Relists s answer (.ok version) s') :
    ∃ response, answer = .ok response ∧ s'.Holds (response.member "items").listed ∧
      version = (response.member "metadata").member "resourceVersion" := by
  cases h with
  | taken => exact ⟨_, rfl, ProfileStore.holds_ofList _, rfl⟩

theorem of_error {f : Fault} (h : Relists s answer (.error f) s') : s' = s ∨
    ∃ response, answer = .ok response ∧ (response.member "metadata").isLegible = false ∧
      s'.Holds (response.member "items").listed := by
  cases h with
  | refused | shapeless | unlistable => exact .inl rfl
  | headless _ _ metadata => exact .inr ⟨_, rfl, metadata, ProfileStore.holds_ofList _⟩

theorem isOk_iff (h : Relists s answer outcome s') : (∃ version, outcome = .ok version) ↔
    ∃ response, answer = .ok response ∧ response.hasFields = true ∧
      (response.member "items").isListable = true ∧
      (response.member "metadata").isLegible = true := by
  cases h with
  | refused => simp
  | shapeless fields => simp [fields]
  | unlistable _ items => simp [items]
  | headless _ _ metadata => simp [metadata]
  | taken fields items metadata => simp [fields, items, metadata]

end Relists

/-- A list call that returns has put what is listed in place of the store, and returns the version of
the list. One that fails leaves the store as it is, unless what is listed was taken in and the metadata
beside it are no object. It returns just where there is an answer with fields, its items can be gone
through, and its metadata are an object or nothing. -/
theorem relist_all_or_nothing (answer : Except Fault Document) (w : Watch) :
    (∀ version, (relist answer w).1 = .ok version → ∃ response, answer = .ok response ∧
      (relist answer w).2.store.Holds (response.member "items").listed ∧
      version = (response.member "metadata").member "resourceVersion") ∧
    (∀ f, (relist answer w).1 = .error f → (relist answer w).2.store = w.store ∨
      ∃ response, answer = .ok response ∧ (response.member "metadata").isLegible = false ∧
        (relist answer w).2.store.Holds (response.member "items").listed) ∧
    ((∃ version, (relist answer w).1 = .ok version) ↔ ∃ response, answer = .ok response ∧
      response.hasFields = true ∧ (response.member "items").isListable = true ∧
      (response.member "metadata").isLegible = true) := by
  have comes := relists answer w
  refine ⟨fun version returns => ?_, fun f fails => ?_, comes.isOk_iff⟩
  · rw [returns] at comes
    exact comes.of_ok
  · rw [fails] at comes
    exact comes.of_error

namespace Sample

/-- A watch whose store has one profile. -/
def primed : Watch :=
  start ⟨.int 30, .int 300, .int 5⟩ (.ofList [⟨.text "web", .int 1, .null, .null, .null⟩]) false

/-- An answer that lists a name twice, and something that is no profile. -/
def answer : Document :=
  .object [
    ("metadata", .object [("resourceVersion", .text "8")]),
    ("items", .list [Feed.Sample.document "batch" 2, .int 5, Feed.Sample.document "batch" 3])]

def headless : Document := .object [("items", .list []), ("metadata", .text "none")]

end Sample

open Sample in
theorem relist_all_or_nothing_sample :
    (relist (.ok answer) primed).1 = .ok (.text "8") ∧
      (⟨.text "batch", .int 3, .null, .null, .null⟩ : Profile) ∈
        (relist (.ok answer) primed).2.store.items ∧
      (relist (.ok (.list [])) primed).1 = .error .noField ∧
      (relist (.ok (.list [])) primed).2.store = primed.store := by
  have taken := (relist_all_or_nothing (.ok answer) primed).1 _ rfl
  have refused := (relist_all_or_nothing (.ok (.list [])) primed).2.1 _ rfl
  refine ⟨rfl, ?_, rfl, refused.resolve_right ?_⟩
  · obtain ⟨response, ⟨⟩, holds, -⟩ := taken
    exact (holds _).mpr ⟨"batch", rfl⟩
  · rintro ⟨response, ⟨⟩, ⟨⟩, -⟩

open Sample in
/-- Metadata that are no object let a list call fail once its list has taken the place of the store. -/
theorem headless_list_taken :
    (relist (.ok headless) primed).1 = .error .noField ∧
      primed.store.size = 1 ∧ (relist (.ok headless) primed).2.store.size = 0 :=
  ⟨rfl, rfl, rfl⟩

end Watch

end NodeRelief
