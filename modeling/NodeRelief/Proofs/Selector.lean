import NodeRelief.Proofs.Cluster
import NodeRelief.Proofs.Sound

/-! # The meaning of label selectors

A selector that is not malformed selects the labels that have all its pairs and meet all its requirements.
That does not depend on the order of its terms, nor on which of them are pairs and which requirements. -/

namespace NodeRelief

/-! ## Values -/

namespace Document

theorem null_agrees_iff {d : Document} : null.agrees d = true ↔ d = .null := by
  cases d <;> simp [canonical]
  split <;> simp

theorem isNaN_iff {d : Document} : d.isNaN = true ↔ d = .float .nan := by
  cases d with
  | float x => cases x <;> simp [isNaN]
  | _ => simp [isNaN]

theorem nan_agrees_iff {d : Document} : agrees (.float .nan) d = true ↔ d = .float .nan := by
  have nan : canonical (.float .nan) = .float .nan := by simp [canonical, Binary64.toInt?]
  rw [agrees_iff, nan]
  cases d with
  | float x => cases x with
    | nan => simp [nan]
    | infinite negative => simp [canonical, Binary64.toInt?]
    | finite negative mantissa exponent =>
        rw [canonical]
        split <;> simp
  | _ => simp [canonical]

/-- A value that may be missing, against one that is neither missing nor a NaN. -/
theorem equals_getD_iff {d : Option Document} {v : Document} (there : v ≠ .null)
    (number : v.isNaN = false) :
    (d.getD .null).equals v = true ↔ ∃ w, d = some w ∧ w.agrees v = true := by
  cases d with
  | none =>
      refine iff_of_false (fun same => there ?_) (by simp)
      exact null_agrees_iff.mp (Bool.and_eq_true_iff.mp same).1
  | some w =>
      have comparable (same : w.agrees v = true) : w.isNaN = false := by
        by_contra nan
        obtain rfl : w = .float .nan := isNaN_iff.mp (by simpa using nan)
        rw [nan_agrees_iff.mp same] at number
        cases number
      rw [Option.getD_some, equals, Bool.and_eq_true, Bool.not_eq_true']
      constructor
      · rintro ⟨same, -⟩
        exact ⟨w, rfl, same⟩
      · rintro ⟨_, ⟨⟩, same⟩
        exact ⟨same, comparable same⟩

end Document

/-! ## Requirements -/

theorem Operator.ofDocument?_eq_some_iff {d : Document} {op : Operator} :
    ofDocument? d = some op ↔ d = .text op.text := by
  have distinct : (all.map fun op => Document.text op.text).Nodup := by decide
  have known : op ∈ all := by cases op <;> decide
  rw [ofDocument?, Register.find?_key_eq_some_iff distinct, and_iff_right known, eq_comm]

theorem Operator.eq_of_text_eq {op op' : Operator} (h : Document.text op.text = .text op'.text) :
    op = op' :=
  Option.some.inj ((ofDocument?_eq_some_iff.mpr rfl).symm.trans (ofDocument?_eq_some_iff.mpr h))

theorem Operator.ofDocument?_eq_none_iff {d : Document} :
    ofDocument? d = none ↔ ∀ op : Operator, d ≠ .text op.text := by
  simp [Option.eq_none_iff_forall_ne_some, ofDocument?_eq_some_iff]

namespace Requirement

/-- What makes a requirement malformed, whatever the labels are. -/
inductive Malformed (r : Requirement) : Prop where
  | emptyKey (h : r.key.isTruthy = false)
  | missingValues {op : Operator} (known : r.operator = .text op.text) (h : op = .isIn ∨ op = .notIn)
      (empty : r.values = [])
  | needlessValues {op : Operator} (known : r.operator = .text op.text)
      (h : op = .hasKey ∨ op = .lacksKey) (given : r.values ≠ [])
  | unknownOperator (h : ∀ op : Operator, r.operator ≠ .text op.text)

/-- Whether the labels have a value under the key that is one of those listed. -/
def Listed (r : Requirement) (labels : Labels) : Prop :=
  ∃ v, labels.get? r.key = some v ∧ ∃ x ∈ r.values, v.agrees x = true

/-- What an operator asks of labels. -/
def Asks (r : Requirement) (labels : Labels) : Operator → Prop
  | .isIn => r.Listed labels
  | .notIn => ¬ r.Listed labels
  | .hasKey => labels.hasKey r.key = true
  | .lacksKey => ¬ labels.hasKey r.key = true

def Holds (r : Requirement) (labels : Labels) : Prop :=
  ∃ op : Operator, r.operator = .text op.text ∧ r.Asks labels op

variable {r : Requirement} {labels : Labels}

/-- With a key and a known operator, only the values can be wrong. -/
theorem malformed_iff {op : Operator} (key : r.key.isTruthy = true) (known : r.operator = .text op.text) :
    r.Malformed ↔ (op.takesValues = true ↔ r.values = []) := by
  constructor
  · intro h
    cases h with
    | emptyKey h => simp [key] at h
    | missingValues known' h empty =>
        obtain rfl := Operator.eq_of_text_eq (known.symm.trans known')
        rcases h with rfl | rfl <;> simp [Operator.takesValues, empty]
    | needlessValues known' h given =>
        obtain rfl := Operator.eq_of_text_eq (known.symm.trans known')
        rcases h with rfl | rfl <;> simp [Operator.takesValues, given]
    | unknownOperator h => exact absurd known (h op)
  · intro h
    cases op with
    | isIn => exact .missingValues known (.inl rfl) (h.mp rfl)
    | notIn => exact .missingValues known (.inr rfl) (h.mp rfl)
    | hasKey => exact .needlessValues known (.inl rfl) fun none => by cases h.mpr none
    | lacksKey => exact .needlessValues known (.inr rfl) fun none => by cases h.mpr none

theorem flaw?_eq_none_iff : r.flaw? = none ↔ ¬ r.Malformed := by
  rw [flaw?]
  cases key : r.key.isTruthy with
  | false => exact iff_of_false (by simp) (not_not_intro (.emptyKey key))
  | true => cases hop : Operator.ofDocument? r.operator with
    | none =>
        have unknown := Operator.ofDocument?_eq_none_iff.mp hop
        exact iff_of_false (by simp) (not_not_intro (.unknownOperator unknown))
    | some op =>
        rw [malformed_iff key (Operator.ofDocument?_eq_some_iff.mp hop)]
        cases op <;> by_cases none : r.values = [] <;> simp [Operator.takesValues, none]

theorem holds_iff {op : Operator} (known : r.operator = .text op.text) :
    r.Holds labels ↔ r.Asks labels op := by
  constructor
  · rintro ⟨op', known', asked⟩
    obtain rfl : op = op' := Operator.eq_of_text_eq (known.symm.trans known')
    exact asked
  · exact fun asked => ⟨op, known, asked⟩

/-- Requirements that differ at most in the order of their values and in how often each is listed. -/
structure SameValues (r r' : Requirement) : Prop where
  key : r.key = r'.key
  operator : r.operator = r'.operator
  values : ∀ x, x ∈ r.values ↔ x ∈ r'.values

theorem SameValues.malformed_iff {r' : Requirement} (h : r.SameValues r') : r.Malformed ↔ r'.Malformed := by
  have malformed {r r' : Requirement} (h : r.SameValues r') (malformed : r.Malformed) : r'.Malformed := by
    have empty : r'.values = [] ↔ r.values = [] := by simp only [List.eq_nil_iff_forall_not_mem, h.values]
    cases malformed with
    | emptyKey keyless => exact .emptyKey (h.key ▸ keyless)
    | missingValues known takes none => exact .missingValues (h.operator ▸ known) takes (empty.mpr none)
    | needlessValues known takes given => exact .needlessValues (h.operator ▸ known) takes (mt empty.mp given)
    | unknownOperator unknown => exact .unknownOperator (h.operator ▸ unknown)
  exact ⟨malformed h, malformed ⟨h.key.symm, h.operator.symm, fun x => (h.values x).symm⟩⟩

theorem SameValues.holds_iff {r' : Requirement} (h : r.SameValues r') : r.Holds labels ↔ r'.Holds labels := by
  have listed : r.Listed labels ↔ r'.Listed labels := by simp only [Listed, h.key, h.values]
  have asks (op : Operator) : r.Asks labels op ↔ r'.Asks labels op := by
    cases op <;> simp only [Asks, listed, h.key]
  simp only [Holds, h.operator, asks]

theorem meets_spec (key : r.key.isKey = true) (wellFormed : ¬ r.Malformed) (labels : Labels) :
    ∃ b, r.meets labels = .ok b ∧ (b = true ↔ r.Holds labels) := by
  have listed : r.Listed labels ↔ labels.hasKey r.key = true ∧
      r.values.any ((labels.get? r.key).getD .null).agrees = true := by
    rw [Listed, Mapping.hasKey_eq_isSome_get?]
    cases labels.get? r.key <;> simp
  obtain ⟨op, hop⟩ : ∃ op : Operator, r.operator = .text op.text := by
    by_contra unknown
    exact wellFormed (.unknownOperator (not_exists.mp unknown))
  simp only [meets, Holding.has_of_isKey key, Operator.ofDocument?_eq_some_iff.mpr hop, lists_of_isKey key,
    Fault.ok_bind, holds_iff hop]
  cases present : labels.hasKey r.key with
  | true => cases op <;> refine ⟨_, rfl, ?_⟩ <;> simp [Asks, listed, present]
  | false => cases op <;> refine ⟨_, rfl, ?_⟩ <;> simp [Asks, listed, present]

end Requirement

/-! ## Selectors -/

/-- What holds of all items of a list holds of all items that are related to them. -/
theorem forall_mem_iff_of_forall₂ {α β : Type} {R : α → β → Prop} {P : α → Prop} {Q : β → Prop}
    {l : List α} {m : List β} (h : List.Forall₂ R l m) (same : ∀ a b, R a b → (P a ↔ Q b)) :
    (∀ a ∈ l, P a) ↔ ∀ b ∈ m, Q b := by
  induction h with
  | nil => simp
  | cons head _ ih => simp only [List.forall_mem_cons, same _ _ head, ih]

namespace Selector

def Malformed (s : Selector) : Prop :=
  (∃ pair ∈ s.labels.items, pair.1.isTruthy = false) ∨ ∃ r ∈ s.requirements, r.Malformed

/-- Whether labels have every pair and meet every requirement. -/
structure Matches (s : Selector) (labels : Labels) : Prop where
  pairs : ∀ pair ∈ s.labels.items, ∃ v, labels.get? pair.1 = some v ∧ v.agrees pair.2 = true
  requirements : ∀ r ∈ s.requirements, r.Holds labels

/-- A selector that is not malformed, with keys that can be looked up and values that are there. -/
structure Valid (s : Selector) : Prop where
  keys : s.Sound
  values : ∀ pair ∈ s.labels.items, pair.2 ≠ .null ∧ pair.2.isNaN = false
  wellFormed : ¬ s.Malformed

variable {s s' : Selector} {labels : Labels}

/-- Texts can be looked up, and are there. -/
theorem Valid.of_texts (pairs : ∀ pair ∈ s.labels.items, pair.1.isText = true ∧ pair.2.isText = true)
    (keys : ∀ r ∈ s.requirements, r.key.isText = true) (wellFormed : ¬ s.Malformed) : s.Valid where
  keys := ⟨fun pair hpair => Document.isKey_of_isText (pairs pair hpair).1,
    fun r hr => Document.isKey_of_isText (keys r hr)⟩
  values pair hpair := by
    obtain ⟨text, htext⟩ := Document.isText_iff.mp (pairs pair hpair).2
    simp [htext, Document.isNaN]
  wellFormed := wellFormed

theorem flaw?_eq_none_iff : s.flaw? = none ↔ ¬ s.Malformed := by
  rw [flaw?, Malformed, not_or]
  split
  · next keyless =>
    obtain ⟨pair, hpair, keyless⟩ := List.any_eq_true.mp keyless
    refine iff_of_false (by simp) fun formed => formed.1 ⟨pair, hpair, by simpa using keyless⟩
  · next keyed =>
    have keys : ¬ ∃ pair ∈ s.labels.items, pair.1.isTruthy = false := by simpa using keyed
    simp only [List.findSome?_eq_none_iff, Requirement.flaw?_eq_none_iff, keys, not_false_eq_true,
      true_and, not_exists, not_and]

/-- A malformed selector is refused for the same reason whatever the labels are, and no other one is. -/
theorem selects_of_malformed (h : s.Malformed) :
    ∃ message, ∀ labels : Labels, selects (some s) labels = .error (.invalidSelector message) := by
  cases flaw : s.flaw? with
  | none => exact absurd h (flaw?_eq_none_iff.mp flaw)
  | some flaw' => exact ⟨flaw'.message, fun labels => by rw [selects, flaw]; rfl⟩

theorem malformed_iff_selects : s.Malformed ↔
    ∃ message, selects (some s) labels = .error (.invalidSelector message) := by
  constructor
  · intro h
    obtain ⟨message, refused⟩ := selects_of_malformed h
    exact ⟨message, refused labels⟩
  · rintro ⟨message, refused⟩
    by_contra formed
    rw [selects, flaw?_eq_none_iff.mpr formed] at refused
    cases meets_eq_error refused

namespace Valid

/-- A pair is there just if the label under its key is its value. -/
theorem hasPair_spec (h : s.Valid) {pair : Document × Document} (hpair : pair ∈ s.labels.items)
    (labels : Labels) : ∃ b, hasPair labels pair = .ok b ∧
      (b = true ↔ ∃ v, labels.get? pair.1 = some v ∧ v.agrees pair.2 = true) := by
  obtain ⟨there, number⟩ := h.values pair hpair
  refine ⟨_, hasPair_of_isKey (h.keys.labels pair hpair) labels, ?_⟩
  exact Document.equals_getD_iff there number

theorem requirement (h : s.Valid) {r : Requirement} (hr : r ∈ s.requirements) :
    r.key.isKey = true ∧ ¬ r.Malformed :=
  ⟨h.keys.requirements r hr, fun malformed => h.wellFormed (.inr ⟨r, hr, malformed⟩)⟩

/-- What is not malformed selects just the labels that it matches. -/
theorem selects_spec (h : s.Valid) (labels : Labels) :
    ∃ b, selects (some s) labels = .ok b ∧ (b = true ↔ s.Matches labels) := by
  obtain ⟨paired, hpaired, pairs⟩ := Fault.allM_spec fun _ hpair => h.hasPair_spec hpair labels
  obtain ⟨met, hmet, requirements⟩ := Fault.allM_spec fun r hr =>
    Requirement.meets_spec (h.requirement (r := r) hr).1 (h.requirement hr).2 labels
  rw [selects, flaw?_eq_none_iff.mpr h.wellFormed]
  simp only [meets, hpaired, Fault.ok_bind]
  cases paired with
  | true =>
      refine ⟨met, hmet, ?_⟩
      rw [requirements]
      exact ⟨fun all => ⟨pairs.mp rfl, all⟩, Matches.requirements⟩
  | false => exact ⟨false, rfl, by simpa using mt Matches.pairs (mt pairs.mpr (by simp))⟩

theorem selects_iff (h : s.Valid) : selects (some s) labels = .ok true ↔ s.Matches labels := by
  obtain ⟨b, hb, holds⟩ := h.selects_spec labels
  rw [hb, ← holds, Except.ok.injEq]

/-- Selectors that match the same labels give the same answers. -/
theorem selects_congr (h : s.Valid) (h' : s'.Valid) (same : s.Matches labels ↔ s'.Matches labels) :
    selects (some s) labels = selects (some s') labels := by
  obtain ⟨b, hb, holds⟩ := h.selects_spec labels
  obtain ⟨b', hb', holds'⟩ := h'.selects_spec labels
  rw [hb, hb', Bool.eq_iff_iff.mpr (holds.trans (same.trans holds'.symm))]

end Valid

/-! ## Terms -/

/-- A pair, as the requirement that the label under the key is among the one value. -/
def term (pair : Document × Document) : Requirement := ⟨pair.1, .text Operator.isIn.text, [pair.2]⟩

theorem operator_term (pair : Document × Document) :
    (term pair).operator = .text Operator.isIn.text := rfl

theorem holds_term {pair : Document × Document} : (term pair).Holds labels ↔
    ∃ v, labels.get? pair.1 = some v ∧ v.agrees pair.2 = true := by
  rw [Requirement.holds_iff (operator_term pair)]
  simp [Requirement.Asks, Requirement.Listed, term]

/-- The pairs, as requirements, and the requirements. -/
def terms (s : Selector) : List Requirement := s.labels.items.map term ++ s.requirements

theorem matches_iff_terms : s.Matches labels ↔ ∀ r ∈ s.terms, r.Holds labels := by
  simp only [terms, List.forall_mem_append, List.forall_mem_map, holds_term]
  exact ⟨fun h => ⟨h.pairs, h.requirements⟩, fun h => ⟨h.1, h.2⟩⟩

namespace Valid

/-- With no pairs but those of a valid selector, only the requirements can be wrong. -/
theorem of_requirements (h : s.Valid) (pairs : ∀ pair ∈ s'.labels.items, pair ∈ s.labels.items)
    (formed : ∀ r ∈ s'.requirements, r.key.isKey = true ∧ ¬ r.Malformed) : s'.Valid where
  keys := ⟨fun pair hpair => h.keys.labels pair (pairs pair hpair), fun r hr => (formed r hr).1⟩
  values pair hpair := h.values pair (pairs pair hpair)
  wellFormed := by
    rintro (⟨pair, hpair, keyless⟩ | ⟨r, hr, malformed⟩)
    · exact h.wellFormed (.inl ⟨pair, pairs pair hpair, keyless⟩)
    · exact (formed r hr).2 malformed

theorem formed_of_terms (h : s.Valid) : ∀ r ∈ s.terms, r.key.isKey = true ∧ ¬ r.Malformed := by
  intro r hr
  rcases List.mem_append.mp hr with hr | hr
  · obtain ⟨pair, hpair, rfl⟩ := List.mem_map.mp hr
    have key : pair.1.isTruthy = true := by
      by_contra keyless
      exact h.wellFormed (.inl ⟨pair, hpair, by simpa using keyless⟩)
    refine ⟨h.keys.labels pair hpair, ?_⟩
    rw [Requirement.malformed_iff key (operator_term pair)]
    simp [Operator.takesValues, term]
  · exact h.requirement hr

/-- Valid selectors of the same terms give the same answers. -/
theorem selects_of_terms (h : s.Valid) (pairs : ∀ pair ∈ s'.labels.items, pair ∈ s.labels.items)
    (same : ∀ r, r ∈ s'.terms ↔ r ∈ s.terms) : selects (some s') labels = selects (some s) labels := by
  have valid : s'.Valid := h.of_requirements pairs fun r hr =>
    h.formed_of_terms r ((same r).mp (List.mem_append_right _ hr))
  refine valid.selects_congr h ?_
  simp only [matches_iff_terms, same]

/-! ## One meaning, many selectors -/

/-- A pair can be taken out of the labels and put among the requirements. -/
theorem selects_expressed (h : s.Valid) {pair : Document × Document}
    (hpair : pair ∈ s.labels.items) {before after : List Requirement}
    (parts : s.requirements = before ++ after) (labels : Labels) :
    selects (some ⟨s.labels.remove pair.1.canonical, before ++ term pair :: after⟩) labels =
      selects (some s) labels := by
  have rest (x : Document × Document) :
      x ∈ s.labels.items ↔ x = pair ∨ x ∈ (s.labels.remove pair.1.canonical).items := by
    rw [(Register.perm_cons_remove hpair).mem_iff, List.mem_cons]
  refine h.selects_of_terms (fun x hx => (rest x).mpr (.inr hx)) fun r => ?_
  simp only [terms, parts, List.mem_append, List.mem_cons, List.mem_map, rest, or_and_right, exists_or,
    exists_eq_left]
  rw [eq_comm (a := r)]
  simp only [or_comm, or_assoc]

theorem selects_perm (h : s.Valid) {rs : List Requirement} (perm : rs.Perm s.requirements)
    (labels : Labels) : selects (some ⟨s.labels, rs⟩) labels = selects (some s) labels := by
  refine h.selects_of_terms (fun _ hx => hx) fun r => ?_
  simp only [terms, List.mem_append, perm.mem_iff]

theorem selects_sameValues (h : s.Valid) {rs : List Requirement}
    (same : List.Forall₂ Requirement.SameValues s.requirements rs) (labels : Labels) :
    selects (some ⟨s.labels, rs⟩) labels = selects (some s) labels := by
  have formed : ∀ r ∈ rs, r.key.isKey = true ∧ ¬ r.Malformed :=
    (forall_mem_iff_of_forall₂ same fun r r' alike => by rw [alike.key, alike.malformed_iff]).mp
      fun r hr => h.requirement hr
  have held : (∀ r ∈ s.requirements, r.Holds labels) ↔ ∀ r ∈ rs, r.Holds labels :=
    forall_mem_iff_of_forall₂ same fun r r' alike => alike.holds_iff
  have valid : Valid ⟨s.labels, rs⟩ := h.of_requirements (fun _ hx => hx) formed
  refine valid.selects_congr h ?_
  exact ⟨fun met => ⟨met.pairs, held.mpr met.requirements⟩, fun met => ⟨met.pairs, held.mp met.requirements⟩⟩

/-- More terms match fewer labels. -/
theorem selects_of_more (h : s'.Valid) (pairs : ∀ pair ∈ s.labels.items, pair ∈ s'.labels.items)
    (requirements : ∀ r ∈ s.requirements, r ∈ s'.requirements)
    (selected : selects (some s') labels = .ok true) : selects (some s) labels = .ok true := by
  have valid : s.Valid := h.of_requirements pairs fun r hr => h.requirement (requirements r hr)
  have matched := h.selects_iff.mp selected
  refine valid.selects_iff.mpr ⟨fun pair hpair => ?_, fun r hr => ?_⟩
  · exact matched.pairs pair (pairs pair hpair)
  · exact matched.requirements r (requirements r hr)

end Valid

/-- Without a selector nothing is selected. A malformed selector is refused, for a reason that does not
depend on the labels; any other selector of texts is valid. A valid one selects the labels that have all
its pairs and meet all its requirements. Then a pair may be given as a requirement, the requirements in
another order, their values in another order or more than once, and with terms left out no labels are
lost. -/
theorem selector_meaning :
    (∀ labels : Labels, selects none labels = .ok false) ∧
    (∀ (s : Selector) (labels : Labels),
      (∃ message, selects (some s) labels = .error (.invalidSelector message)) ↔ s.Malformed) ∧
    (∀ s : Selector, s.Malformed →
      ∃ message, ∀ labels : Labels, selects (some s) labels = .error (.invalidSelector message)) ∧
    (∀ s : Selector, (∀ pair ∈ s.labels.items, pair.1.isText = true ∧ pair.2.isText = true) →
      (∀ r ∈ s.requirements, r.key.isText = true) → ¬ s.Malformed → s.Valid) ∧
    ∀ s : Selector, s.Valid →
      (∀ labels : Labels, ∃ b, selects (some s) labels = .ok b ∧ (b = true ↔ s.Matches labels)) ∧
      (∀ pair ∈ s.labels.items, ∀ before after, s.requirements = before ++ after → ∀ labels : Labels,
        selects (some ⟨s.labels.remove pair.1.canonical,
          before ++ ⟨pair.1, .text Operator.isIn.text, [pair.2]⟩ :: after⟩) labels =
            selects (some s) labels) ∧
      (∀ rs : List Requirement, rs.Perm s.requirements → ∀ labels : Labels,
        selects (some ⟨s.labels, rs⟩) labels = selects (some s) labels) ∧
      (∀ rs, List.Forall₂ Requirement.SameValues s.requirements rs → ∀ labels : Labels,
        selects (some ⟨s.labels, rs⟩) labels = selects (some s) labels) ∧
      ∀ t : Selector, (∀ pair ∈ t.labels.items, pair ∈ s.labels.items) →
        (∀ r ∈ t.requirements, r ∈ s.requirements) → ∀ labels : Labels,
        selects (some s) labels = .ok true → selects (some t) labels = .ok true := by
  refine ⟨fun _ => rfl, fun _ _ => malformed_iff_selects.symm, fun _ => selects_of_malformed,
    fun _ => Valid.of_texts, fun s valid => ⟨valid.selects_spec, ?_, ?_, ?_, ?_⟩⟩
  · exact fun _ hpair _ _ => valid.selects_expressed hpair
  · exact fun _ => valid.selects_perm
  · exact fun _ => valid.selects_sameValues
  · exact fun _ pairs requirements _ => valid.selects_of_more pairs requirements

namespace Sample

def anywhere : Requirement := ⟨.text "env", .text "In", [.text "prod", .text "stage"]⟩

def web : Selector := ⟨.ofPairs [(.text "app", .text "web")], [anywhere]⟩

def nameless : Selector := ⟨.empty, [⟨.text "", .text "Exists", []⟩]⟩

def staged : Labels := .ofPairs [(.text "app", .text "web"), (.text "env", .text "stage")]

theorem formed : ¬ web.Malformed := flaw?_eq_none_iff.mp rfl

theorem malformed : nameless.Malformed := .inr ⟨_, List.mem_singleton_self _, .emptyKey rfl⟩

end Sample

open Sample in
theorem selector_meaning_sample :
    nameless.Malformed ∧ ¬ web.Malformed ∧ web.Valid ∧
      (∃ message, selects (some nameless) staged = .error (.invalidSelector message)) ∧
      selects (some web) staged = .ok true ∧
      selects (some ⟨.empty, [⟨.text "app", .text "In", [.text "web"]⟩, anywhere]⟩) staged = .ok true ∧
      selects (some ⟨.empty, [anywhere]⟩) staged = .ok true := by
  obtain ⟨-, refused, -, texts, valued⟩ := selector_meaning
  have valid : web.Valid := texts web (by decide) (by decide) formed
  obtain ⟨-, expressed, -, -, fewer⟩ := valued web valid
  have selected : selects (some web) staged = .ok true := by decide +kernel
  refine ⟨malformed, formed, valid, (refused _ _).mpr malformed, selected, ?_, ?_⟩
  · exact (expressed _ (List.mem_singleton_self _) [] [anywhere] rfl staged).trans selected
  · exact fewer ⟨.empty, [anywhere]⟩ (by simp [Register.empty]) (fun _ hr => hr) staged selected

end Selector

end NodeRelief
