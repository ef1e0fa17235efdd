import NodeRelief.Api.Reading
import NodeRelief.Proofs.Cooldown
import NodeRelief.Proofs.Register
import NodeRelief.Proofs.Sound

/-! # Objects of the API that can be read

A document fits if it has the form that the API gives to an object of its kind. A document that fits is
read, and what is read is sound. -/

namespace NodeRelief

/-! ## Documents of the API -/

namespace Document

def isObject : Document → Bool
  | .object _ => true
  | _ => false

/-- A field of an object, `null` if there is none. -/
def under (name : String) : Document → Document
  | .object fields => (field? name fields).getD .null
  | _ => .null

/-- Nothing, or a document with the property. -/
def isOptional (fits : Document → Bool) : Document → Bool
  | .null => true
  | d => fits d

def isListOf (fits : Document → Bool) : Document → Bool
  | .list items => items.all fits
  | _ => false

/-- An object whose fields all have the property. -/
def isMapOf (fits : String × Document → Bool) : Document → Bool
  | .object fields => fields.all fits
  | _ => false

theorem isObject_iff {d : Document} : d.isObject = true ↔ ∃ fields, d = .object fields := by
  cases d <;> simp [isObject]

theorem isListOf_iff {fits : Document → Bool} {d : Document} :
    d.isListOf fits = true ↔ ∃ items, d = .list items ∧ ∀ item ∈ items, fits item = true := by
  cases d <;> simp [isListOf]

theorem isMapOf_iff {fits : String × Document → Bool} {d : Document} :
    d.isMapOf fits = true ↔ ∃ fields, d = .object fields ∧ ∀ field ∈ fields, fits field = true := by
  cases d <;> simp [isMapOf]

theorem isOptional_iff {fits : Document → Bool} {d : Document} :
    d.isOptional fits = true ↔ d = .null ∨ fits d = true := by
  cases d <;> simp [isOptional]

end Document

namespace Reading

open Document (part elements field? under)

theorem field?_entityFields (name : String) (fields : List (String × Document)) :
    field? name (entityFields fields) =
      (field? name fields).map fun d => if name ∈ mappingFields then d else entity d := by
  induction fields with
  | nil => rfl
  | cons field fields ih =>
      obtain ⟨first, d⟩ := field
      simp only [field?] at ih ⊢
      rw [entityFields, List.find?_cons, List.find?_cons]
      by_cases h : first = name
      · subst h
        simp
      · simpa [h] using ih

/-- A part of an object that is no mapping is an entity, if it is an object itself. -/
theorem part_entity {d : Document} (h : d.isObject = true) (name : String)
    (hname : name ∉ mappingFields) : part name (entity d) = .ok (entity (under name d)) := by
  obtain ⟨fields, rfl⟩ := Document.isObject_iff.mp h
  rw [entity, part, field?_entityFields]
  simp only [hname, if_false, under]
  cases field? name fields <;> simp [entity]

theorem part_entity_mapping {d : Document} (h : d.isObject = true) (name : String)
    (hname : name ∈ mappingFields) : part name (entity d) = .ok (under name d) := by
  obtain ⟨fields, rfl⟩ := Document.isObject_iff.mp h
  rw [entity, part, field?_entityFields]
  simp only [hname, if_true, under]
  cases field? name fields <;> rfl

theorem entityItems_eq (items : List Document) : entityItems items = items.map entity := by
  induction items with
  | nil => rfl
  | cons d items ih => rw [entityItems, ih, List.map_cons]

/-! Names and texts are no objects. -/

@[simp] theorem isName_entity (d : Document) : (entity d).isName = d.isName := by
  cases d <;> rfl

@[simp] theorem isText_entity (d : Document) : (entity d).isText = d.isText := by
  cases d <;> rfl

@[simp] theorem isOptionalText_entity (d : Document) :
    (entity d).isOptionalText = d.isOptionalText := by
  cases d <;> rfl

/-- A part of an object that may be missing. -/
theorem partIfThere_entity {d : Document} (h : d.isOptional Document.isObject = true) (name : String)
    (hname : name ∉ mappingFields) : partIfThere name (entity d) = .ok (entity (under name d)) := by
  rcases Document.isOptional_iff.mp h with rfl | h
  · rfl
  · obtain ⟨fields, rfl⟩ := Document.isObject_iff.mp h
    exact part_entity (d := .object fields) rfl name hname

theorem partIfThere_entity_mapping {d : Document} (h : d.isOptional Document.isObject = true)
    (name : String) (hname : name ∈ mappingFields) :
    partIfThere name (entity d) = .ok (under name d) := by
  rcases Document.isOptional_iff.mp h with rfl | h
  · rfl
  · obtain ⟨fields, rfl⟩ := Document.isObject_iff.mp h
    exact part_entity_mapping (d := .object fields) rfl name hname

/-! ## Lists and mappings -/

/-- The items of a list are read one by one. -/
theorem items_isOk {α : Type} {fits : Document → Bool} {read : Document → Except Fault α}
    {P : α → Prop} {items : List Document}
    (one : ∀ d, fits d = true → ∃ a, read (entity d) = .ok a ∧ P a)
    (h : ∀ d ∈ items, fits d = true) :
    ∃ as, (entityItems items).mapM read = .ok as ∧ ∀ a ∈ as, P a := by
  rw [entityItems_eq]
  apply Fault.mapM_isOk
  intro _ he
  obtain ⟨d, hd, rfl⟩ := List.mem_map.mp he
  exact one d (h d hd)

theorem listOf_isOk {α : Type} {fits : Document → Bool} {read : Document → Except Fault α}
    {P : α → Prop} {d : Document} (one : ∀ d, fits d = true → ∃ a, read (entity d) = .ok a ∧ P a)
    (h : d.isObject = true) (items : (under "items" d).isListOf fits = true) :
    ∃ as, listOf read (entity d) = .ok as ∧ ∀ a ∈ as, P a := by
  obtain ⟨items, hitems, fit⟩ := Document.isListOf_iff.mp items
  obtain ⟨as, has, hP⟩ := items_isOk one fit
  refine ⟨as, ?_, hP⟩
  rw [listOf, part_entity h "items" (by decide), hitems, entity]
  exact has

theorem optionalItems_isOk {α : Type} {fits : Document → Bool} {read : Document → Except Fault α}
    {P : α → Prop} {d : Document} (one : ∀ d, fits d = true → ∃ a, read (entity d) = .ok a ∧ P a)
    (h : d.isOptional (Document.isListOf fits) = true) :
    ∃ items as, optionalItems (entity d) = .ok items ∧ items.mapM read = .ok as ∧ ∀ a ∈ as, P a := by
  rcases Document.isOptional_iff.mp h with rfl | h
  · exact ⟨[], [], rfl, rfl, by simp⟩
  obtain ⟨items, rfl, fit⟩ := Document.isListOf_iff.mp h
  obtain ⟨as, has, hP⟩ := items_isOk one fit
  cases items with
  | nil => exact ⟨[], as, rfl, has, hP⟩
  | cons d items => exact ⟨entityItems (d :: items), as, rfl, has, hP⟩

/-- What labels hold under a key, they got from a field of that name. -/
theorem labels_isOk {fits : String × Document → Bool} {d : Document}
    (h : d.isOptional (Document.isMapOf fits) = true) :
    ∃ m, labels d = .ok m ∧ (∀ e ∈ m.items, e.1.isKey = true) ∧
      ∀ k, ∀ v ∈ m.get? k, ∃ name, fits (name, v) = true ∧ (Document.text name).agrees k = true := by
  have nothing : ∀ e ∈ (Register.empty : Mapping).items, e.1.isKey = true := by
    simp [Register.empty]
  rcases Document.isOptional_iff.mp h with rfl | h
  · exact ⟨.empty, rfl, nothing, by simp [Mapping.get?]⟩
  obtain ⟨fields, rfl, fit⟩ := Document.isMapOf_iff.mp h
  simp only [labels]
  split
  · refine ⟨_, rfl, ?_, fun k v hv => ?_⟩
    · refine Mapping.isKey_of_mem_foldl_set nothing ?_
      apply Mapping.isKey_of_mem_foldl_set nothing
      intro pair hpair
      obtain ⟨field, -, rfl⟩ := List.mem_map.mp hpair
      rfl
    rcases Mapping.get?_foldl_set hv with held | ⟨pair, hpair, agrees, rfl⟩
    · cases held
    rcases Mapping.get?_foldl_set (Mapping.get?_of_mem hpair) with held | ⟨pair', hpair', agrees', same⟩
    · cases held
    obtain ⟨field, hfield, rfl⟩ := List.mem_map.mp hpair'
    refine ⟨field.1, ?_, ?_⟩
    · rw [← same]
      exact fit field hfield
    · rw [Document.agrees_iff] at agrees agrees' ⊢
      exact agrees'.trans agrees
  · exact ⟨.empty, rfl, nothing, by simp [Mapping.get?]⟩

end Reading

/-! ## Kinds of objects -/

namespace Document

/-- Labels or annotations that are texts, if there are any. -/
def fitsLabels (d : Document) : Bool := d.isOptional (isMapOf fun field => field.2.isText)

/-- An object with a name among its metadata. -/
def fitsNamed (d : Document) : Bool :=
  let metadata := under "metadata" d
  d.isObject && metadata.isObject && (under "name" metadata).isName &&
    (under "uid" metadata).isOptionalText && fitsLabels (under "labels" metadata) &&
    fitsLabels (under "annotations" metadata)

def fitsReference (d : Document) : Bool := d.isObject && (under "name" d).isText

/-- A named object in a namespace, and references to the owners of it. -/
def fitsNamespaced (d : Document) : Bool :=
  let metadata := under "metadata" d
  fitsNamed d && (under "namespace" metadata).isText &&
    (under "owner_references" metadata).isOptional (isListOf fitsReference)

/-- Finite amounts of resources. -/
def fitsAmounts (d : Document) : Bool :=
  d.isOptional (isMapOf fun field => (Quantity.read field.2.plain).isFinite)

def fitsContainer (d : Document) : Bool :=
  let resources := under "resources" d
  d.isObject && resources.isOptional isObject && fitsAmounts (under "requests" resources) &&
    fitsAmounts (under "limits" resources)

def fitsPod (d : Document) : Bool :=
  let spec := under "spec" d
  fitsNamespaced d && spec.isOptional isObject && (under "status" d).isOptional isObject &&
    (under "containers" spec).isOptional (isListOf fitsContainer)

/-- An owner whose cooldown annotation is no deadline outside the calendar or in its last second. -/
def fitsOwner (mark d : Document) : Bool :=
  fitsNamespaced d && (under "annotations" (under "metadata" d)).isOptional
    (isMapOf fun field => field.2.isText && (!(text field.1).agrees mark || Cooldown.isTimely field.2))

def fitsRequirement (d : Document) : Bool :=
  d.isObject && (under "key" d).isText && (under "values" d).isOptional (isListOf fun _ => true)

def fitsSelector (d : Document) : Bool :=
  d.isObject && fitsLabels (under "match_labels" d) &&
    (under "match_expressions" d).isOptional (isListOf fitsRequirement)

def fitsBudget (d : Document) : Bool :=
  let spec := under "spec" d
  d.isObject && (under "metadata" d).isObject && spec.isOptional isObject &&
    (under "status" d).isOptional isObject && (under "selector" spec).isOptional fitsSelector

end Document

namespace Reading

open Document (part elements under fitsLabels fitsNamed fitsReference fitsNamespaced fitsAmounts
  fitsContainer fitsPod fitsOwner fitsRequirement fitsSelector fitsBudget)

variable {c : Config} {d : Document}

theorem node_isOk (h : fitsNamed d = true) : ∃ n, node (entity d) = .ok n ∧ n.Sound := by
  simp only [fitsNamed, Bool.and_eq_true] at h
  obtain ⟨⟨⟨⟨⟨hd, hm⟩, name⟩, uid⟩, hl⟩, ha⟩ := h
  obtain ⟨own, labels, -⟩ := labels_isOk hl
  obtain ⟨annotations, annotated, -⟩ := labels_isOk ha
  refine ⟨⟨entity (under "name" (under "metadata" d)), annotations, own,
    entity (under "uid" (under "metadata" d))⟩, ?_, by simpa using name, by simpa using uid⟩
  simp only [node, Fault.ok_bind, part_entity hd "metadata" (by decide),
    part_entity hm "name" (by decide), part_entity hm "uid" (by decide),
    part_entity_mapping hm "annotations" (by decide), part_entity_mapping hm "labels" (by decide),
    annotated, labels]
  rfl

theorem reference_isOk (h : fitsReference d = true) :
    ∃ r, reference (entity d) = .ok r ∧ r.name.isText = true := by
  simp only [fitsReference, Bool.and_eq_true] at h
  obtain ⟨hd, name⟩ := h
  refine ⟨⟨entity (under "kind" d), entity (under "name" d),
    .bool (entity (under "controller" d)).isTruthy, (entity (under "api_version" d)).orElse "",
    entity (under "uid" d)⟩, ?_, by simpa using name⟩
  simp only [reference, Fault.ok_bind, part_entity hd "kind" (by decide),
    part_entity hd "name" (by decide), part_entity hd "controller" (by decide),
    part_entity hd "api_version" (by decide), part_entity hd "uid" (by decide)]
  rfl

theorem references_isOk (h : d.isOptional (Document.isListOf fitsReference) = true) :
    ∃ rs, references (entity d) = .ok rs ∧ ∀ r ∈ rs, r.name.isText = true := by
  obtain ⟨items, rs, hitems, hrs, sound⟩ := optionalItems_isOk (fun d hd => reference_isOk hd) h
  exact ⟨rs, by simp only [references, hitems, Fault.ok_bind, hrs], sound⟩

theorem amounts_isOk (h : fitsAmounts d = true) :
    ∃ a, amounts d = .ok a ∧ a.declaresFinite = true := by
  rcases Document.isOptional_iff.mp h with rfl | h
  · exact ⟨.null, rfl, by decide⟩
  obtain ⟨fields, rfl, finite⟩ := Document.isMapOf_iff.mp h
  refine ⟨_, rfl, List.all_eq_true.mpr fun r _ => ?_⟩
  simp only [amount]
  generalize htexts : List.map _ fields = texts
  by_cases there : (Document.object texts).isTruthy = true
  · rw [if_pos there, part, Fault.ok_map, Document.field?]
    cases hf : texts.find? (·.1 = r) with
    | none => rfl
    | some field =>
        have mem := List.mem_of_find?_eq_some hf
        rw [← htexts] at mem
        obtain ⟨field', hfield, rfl⟩ := List.mem_map.mp mem
        exact finite field' hfield
  · rw [if_neg there]
    rfl

theorem container_isOk (h : fitsContainer d = true) : ∃ x, container (entity d) = .ok x ∧ x.Sound := by
  simp only [fitsContainer, Bool.and_eq_true] at h
  obtain ⟨⟨⟨hd, hr⟩, requests⟩, limits⟩ := h
  obtain ⟨r, requested, finite⟩ := amounts_isOk requests
  obtain ⟨l, limited, finite'⟩ := amounts_isOk limits
  refine ⟨⟨entity (under "name" d), r, l⟩, ?_, finite, finite'⟩
  simp only [container, Fault.ok_bind, part_entity hd "resources" (by decide),
    part_entity hd "name" (by decide), partIfThere_entity_mapping hr "requests" (by decide),
    partIfThere_entity_mapping hr "limits" (by decide), requested, limited]
  rfl

theorem pod_isOk (h : fitsPod d = true) : ∃ p, pod (entity d) = .ok p ∧ p.Sound c := by
  simp only [fitsPod, fitsNamespaced, fitsNamed, Bool.and_eq_true] at h
  obtain ⟨⟨⟨⟨⟨⟨⟨⟨⟨⟨hd, hm⟩, name⟩, uid⟩, hl⟩, -⟩, ns⟩, href⟩, hs⟩, hst⟩, hx⟩ := h
  obtain ⟨own, labels, -, values⟩ := labels_isOk hl
  obtain ⟨refs, referred, names⟩ := references_isOk href
  obtain ⟨items, containers, listed, contained, sound⟩ :=
    optionalItems_isOk (fun d hd => container_isOk hd) hx
  refine ⟨⟨entity (under "name" (under "metadata" d)), entity (under "namespace" (under "metadata" d)),
    entity (under "node_name" (under "spec" d)),
    .ofDocument (entity (under "phase" (under "status" d))), containers, own, refs,
    entity (under "uid" (under "metadata" d))⟩, ?_, by simpa using name, by simpa using ns,
    by simpa using uid, ?_, sound, names⟩
  · simp only [pod, Fault.ok_bind, part_entity hd "metadata" (by decide),
      part_entity hd "spec" (by decide), part_entity hd "status" (by decide),
      partIfThere_entity hs "containers" (by decide), partIfThere_entity hs "node_name" (by decide),
      partIfThere_entity hst "phase" (by decide), part_entity hm "name" (by decide),
      part_entity hm "namespace" (by decide), part_entity hm "owner_references" (by decide),
      part_entity hm "uid" (by decide), part_entity_mapping hm "labels" (by decide),
      listed, contained, labels, referred]
    rfl
  · simp only [Pod.workload]
    cases hv : own.get? c.workloadLabel with
    | none => rfl
    | some v =>
        obtain ⟨_, text, -⟩ := values _ v hv
        exact Document.isKey_of_isText text

theorem owner_isOk (kind : OwnerKind) (h : fitsOwner c.cooldownMark d = true) :
    ∃ o, owner kind (entity d) = .ok o ∧ o.Sound c ∧ Cooldown.Timely c.cooldownMark o := by
  simp only [fitsOwner, fitsNamespaced, fitsNamed, Bool.and_eq_true] at h
  obtain ⟨⟨⟨⟨⟨⟨⟨⟨hd, hm⟩, name⟩, uid⟩, -⟩, -⟩, ns⟩, href⟩, ha⟩ := h
  obtain ⟨annotations, annotated, -, values⟩ := labels_isOk ha
  obtain ⟨refs, referred, names⟩ := references_isOk href
  refine ⟨⟨kind, entity (under "name" (under "metadata" d)),
    entity (under "namespace" (under "metadata" d)), annotations, refs,
    entity (under "uid" (under "metadata" d)),
    entity (under "resource_version" (under "metadata" d))⟩, ?_, ⟨by simpa using name,
    by simpa using ns, by simpa using uid, names, ?_⟩, ?_⟩
  · simp only [owner, Fault.ok_bind, part_entity hd "metadata" (by decide),
      part_entity hm "name" (by decide), part_entity hm "namespace" (by decide),
      part_entity hm "owner_references" (by decide), part_entity hm "uid" (by decide),
      part_entity hm "resource_version" (by decide),
      part_entity_mapping hm "annotations" (by decide), annotated, referred]
    rfl
  · intro v hv
    obtain ⟨_, fit, -⟩ := values _ v hv
    exact (Bool.and_eq_true_iff.mp fit).1
  · intro v hv
    obtain ⟨_, fit, agrees⟩ := values _ v hv
    simpa [agrees] using (Bool.and_eq_true_iff.mp fit).2

theorem requirement_isOk (h : fitsRequirement d = true) :
    ∃ r, requirement (entity d) = .ok r ∧ r.key.isKey = true := by
  simp only [fitsRequirement, Bool.and_eq_true] at h
  obtain ⟨⟨hd, key⟩, hv⟩ := h
  have one (d : Document) (_ : true = true) :
      ∃ a, (Except.ok (entity d) : Except Fault Document) = .ok a ∧ True := ⟨_, rfl, trivial⟩
  obtain ⟨values, _, hvalues, -⟩ := optionalItems_isOk one hv
  refine ⟨⟨entity (under "key" d), entity (under "operator" d), values⟩, ?_,
    Document.isKey_of_isText (by simpa using key)⟩
  simp only [requirement, Fault.ok_bind, part_entity hd "key" (by decide),
    part_entity hd "operator" (by decide), part_entity hd "values" (by decide), hvalues]
  rfl

theorem selector_isOk (h : d.isOptional fitsSelector = true) :
    ∃ s, selector (entity d) = .ok s ∧ ∀ s' ∈ s, s'.Sound := by
  rcases Document.isOptional_iff.mp h with rfl | h
  · exact ⟨none, rfl, by simp⟩
  simp only [fitsSelector, Bool.and_eq_true] at h
  obtain ⟨⟨hd, hl⟩, hr⟩ := h
  obtain ⟨own, labels, keys, -⟩ := labels_isOk hl
  obtain ⟨items, requirements, listed, required, sound⟩ :=
    optionalItems_isOk (fun d hd => requirement_isOk hd) hr
  refine ⟨some ⟨own, requirements⟩, ?_, ?_⟩
  · have hlabels := part_entity_mapping hd "match_labels" (by decide)
    have hrequirements := part_entity hd "match_expressions" (by decide)
    obtain ⟨fields, rfl⟩ := Document.isObject_iff.mp hd
    simp only [entity] at hlabels hrequirements ⊢
    simp only [selector, Fault.ok_bind, hlabels, labels, hrequirements, listed, required]
    rfl
  · rintro _ ⟨⟩
    exact ⟨keys, sound⟩

theorem budget_isOk (h : fitsBudget d = true) : ∃ b, budget (entity d) = .ok b ∧ b.Sound := by
  simp only [fitsBudget, Bool.and_eq_true] at h
  obtain ⟨⟨⟨⟨hd, hm⟩, hs⟩, hst⟩, hsel⟩ := h
  obtain ⟨s, selected, sound⟩ := selector_isOk hsel
  refine ⟨⟨entity (under "name" (under "metadata" d)), entity (under "namespace" (under "metadata" d)), s,
    (entity (under "disruptions_allowed" (under "status" d))).orElse (.int 0)⟩, ?_, sound⟩
  simp only [budget, Fault.ok_bind, part_entity hd "status" (by decide),
    part_entity hd "metadata" (by decide), part_entity hd "spec" (by decide),
    part_entity hm "name" (by decide), part_entity hm "namespace" (by decide),
    partIfThere_entity hs "selector" (by decide),
    partIfThere_entity hst "disruptions_allowed" (by decide), selected]
  rfl

end Reading

end NodeRelief
