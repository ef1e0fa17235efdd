import NodeRelief.Proofs.Api.Reading
import NodeRelief.Proofs.Ranking.Policy

/-! # Amounts of any text

Requests and limits may be any texts. A text that is no quantity counts as zero, and every other one
compares, but for a signaling NaN: the first pair of amounts that differ ends the comparing, and
if a signaling NaN comes before it there is no class, and no ranking of the pods either. -/

namespace NodeRelief

/-! ## Comparing -/

def Decimal.isSignaling : Decimal → Bool
  | .nan _ signaling => signaling
  | _ => false

theorem Decimal.equals?_eq_none_iff {a b : Decimal} :
    equals? a b = none ↔ a.isSignaling = true ∨ b.isSignaling = true := by
  cases a with
  | finite _ _ _ => cases b with
    | nan _ signaling => cases signaling <;> simp [equals?, isSignaling]
    | _ => simp [equals?, isSignaling]
  | infinite _ => cases b with
    | nan _ signaling => cases signaling <;> simp [equals?, isSignaling]
    | _ => simp [equals?, isSignaling]
  | nan _ signaling => cases signaling with
    | true => simp [equals?, isSignaling]
    | false => cases b with
      | nan _ signaling => cases signaling <;> simp [equals?, isSignaling]
      | _ => simp [equals?, isSignaling]

theorem sameAmount_eq_error_iff {a b : Decimal} {f : Fault} : sameAmount a b = .error f ↔
    f = .incomparable ∧ (a.isSignaling = true ∨ b.isSignaling = true) := by
  rw [← Decimal.equals?_eq_none_iff, sameAmount]
  cases Decimal.equals? a b <;> simp [eq_comm]

/-- Whether a request and a limit differ. -/
def differ (pair : Decimal × Decimal) : Except Fault Bool := (sameAmount pair.1 pair.2).map (!·)

/-- Comparing pairs one after the other, up to the first that differ, comes to a signaling NaN. -/
inductive Stalls : List (Decimal × Decimal) → Prop where
  | here {a b : Decimal} {rest : List (Decimal × Decimal)}
      (signaling : a.isSignaling = true ∨ b.isSignaling = true) : Stalls ((a, b) :: rest)
  | later {a b : Decimal} {rest : List (Decimal × Decimal)} (same : a.equals? b = some true)
      (stalls : Stalls rest) : Stalls ((a, b) :: rest)

theorem stalls_cons_iff {a b : Decimal} {rest : List (Decimal × Decimal)} :
    Stalls ((a, b) :: rest) ↔
      (a.isSignaling = true ∨ b.isSignaling = true) ∨ a.equals? b = some true ∧ Stalls rest := by
  constructor
  · rintro (h | ⟨same, h⟩)
    · exact .inl h
    · exact .inr ⟨same, h⟩
  · rintro (h | ⟨same, h⟩)
    · exact .here h
    · exact .later same h

theorem anyM_differ_eq_error_iff {pairs : List (Decimal × Decimal)} {f : Fault} :
    pairs.anyM differ = .error f ↔ f = .incomparable ∧ Stalls pairs := by
  induction pairs with
  | nil => exact iff_of_false (by simp) (by rintro ⟨-, ⟨⟩⟩)
  | cons pair rest ih =>
      obtain ⟨a, b⟩ := pair
      rw [List.anyM_cons, stalls_cons_iff, ← Decimal.equals?_eq_none_iff]
      cases h : a.equals? b with
      | none => simp [differ, sameAmount, h, bind, Except.bind, Except.map, eq_comm]
      | some same =>
          cases same with
          | true => simpa [differ, sameAmount, h] using ih
          | false => simp [differ, sameAmount, h]

theorem equals?_of_differ {pair : Decimal × Decimal} (h : differ pair = .ok false) :
    pair.1.equals? pair.2 = some true := by
  obtain ⟨same, hsame, negated⟩ := Fault.map_eq_ok_iff.mp h
  rw [sameAmount] at hsame
  split at hsame
  · next b compares =>
    cases hsame
    simpa [compares] using negated
  · cases hsame

theorem Stalls.exists_signaling {pairs : List (Decimal × Decimal)} (h : Stalls pairs) :
    ∃ pair ∈ pairs, pair.1.isSignaling = true ∨ pair.2.isSignaling = true := by
  induction h with
  | here signaling => exact ⟨_, List.mem_cons_self, signaling⟩
  | later _ _ ih =>
      obtain ⟨pair, hpair, signaling⟩ := ih
      exact ⟨pair, List.mem_cons_of_mem _ hpair, signaling⟩

/-! ## Containers -/

/-- The amount of a resource in nothing or an object. -/
def Document.amountOf (d : Document) (resource : String) : Decimal :=
  if d.isTruthy then Quantity.ofDocument (d.under resource) else .zero

theorem amount_eq {d : Document} (h : d.isOptional Document.isObject = true) (resource : String) :
    amount d resource = .ok (d.amountOf resource) := by
  rcases Document.isOptional_iff.mp h with rfl | h
  · rfl
  · obtain ⟨fields, rfl⟩ := Document.isObject_iff.mp h
    rw [amount, Document.amountOf]
    split <;> rfl

/-- Only a text stands for a signaling NaN. -/
theorem Document.text_of_isSignaling {d : Document} {resource : String}
    (h : (d.amountOf resource).isSignaling = true) : ∃ s negative,
      d.under resource = .text s ∧ Quantity.parse? s = some (.nan negative true) := by
  rw [amountOf] at h
  split at h
  · cases hd : d.under resource with
    | text s =>
        rw [hd, Quantity.ofDocument, Quantity.read] at h
        cases hs : Quantity.parse? s with
        | none => rw [hs] at h; cases h
        | some a =>
            rw [hs] at h
            cases a with
            | nan negative signaling => cases h; exact ⟨s, negative, rfl, hs⟩
            | _ => cases h
    | float x =>
        rw [hd, Quantity.ofDocument] at h
        cases x with
        | finite negative m e => simp only [Decimal.ofBinary64] at h; split at h <;> cases h
        | _ => cases h
    | _ => rw [hd] at h; cases h
  · cases h

namespace Container

/-- What is requested and what is the limit are nothing or an object each. -/
structure Declared (x : Container) : Prop where
  requests : x.requests.isOptional Document.isObject = true
  limits : x.limits.isOptional Document.isObject = true

/-- Request and limit of each resource. -/
def pairs (x : Container) : List (Decimal × Decimal) :=
  resources.map fun r => (x.requests.amountOf r, x.limits.amountOf r)

variable {x : Container}

theorem requestsDiffer_eq (h : x.Declared) : x.requestsDiffer = x.pairs.anyM differ := by
  simp only [requestsDiffer, requestsLimit, amount_eq h.requests, amount_eq h.limits, Fault.ok_bind]
  rfl

theorem requestsZero_eq (h : x.Declared) :
    x.requestsZero = x.pairs.anyM fun pair => sameAmount pair.1 .zero := by
  simp only [requestsZero, amount_eq h.requests, Fault.ok_bind]
  rfl

/-- Where no request differs from its limit all of them compare with zero. -/
theorem requestsZero_isOk (h : x.Declared) (same : x.requestsDiffer = .ok false) :
    ∃ b, x.requestsZero = .ok b := by
  rw [requestsDiffer_eq h] at same
  rw [requestsZero_eq h]
  apply Fault.anyM_isOk
  intro pair hpair
  cases hzero : sameAmount pair.1 .zero with
  | ok b => exact ⟨b, rfl⟩
  | error f =>
      have signaling := (sameAmount_eq_error_iff.mp hzero).2.resolve_right (by decide)
      have compares := equals?_of_differ (Fault.of_anyM_eq_false same pair hpair)
      rw [Decimal.equals?_eq_none_iff.mpr (.inl signaling)] at compares
      cases compares

end Container

/-! ## Pods -/

namespace Pod

/-- The containers' requests and limits, in the order in which they are compared. -/
def pairs (p : Pod) : List (Decimal × Decimal) := p.containers.flatMap Container.pairs

/-- Every container declares something, and comparing what they declare stalls. -/
def Unclassed (p : Pod) : Prop :=
  (∀ x ∈ p.containers, x.declaresNothing = false) ∧ Stalls p.pairs

/-- There is no class just where comparing stalls. -/
theorem qos_eq_error_iff {p : Pod} (h : ∀ x ∈ p.containers, x.Declared) {f : Fault} :
    p.qos = .error f ↔ f = .incomparable ∧ p.Unclassed := by
  have pairs : p.containers.anyM Container.requestsDiffer = p.pairs.anyM differ := by
    rw [Pod.pairs, Fault.anyM_flatMap]
    exact Fault.anyM_congr fun x hx => Container.requestsDiffer_eq (h x hx)
  rw [Pod.qos, QosClass.ofContainers, Unclassed]
  split
  · next bestEffort =>
    refine iff_of_false (by simp) ?_
    rintro ⟨-, declares, stalls⟩
    rcases Bool.or_eq_true_iff.mp bestEffort with empty | nothing
    · rw [Pod.pairs, List.isEmpty_iff.mp empty] at stalls
      cases stalls
    · obtain ⟨x, hx, nothing⟩ := List.any_eq_true.mp nothing
      rw [declares x hx] at nothing
      cases nothing
  · next declared =>
    have declares : ∀ x ∈ p.containers, x.declaresNothing = false := by
      intro x hx
      by_contra nothing
      exact declared (Bool.or_eq_true_iff.mpr
        (.inr (List.any_eq_true.mpr ⟨x, hx, by simpa using nothing⟩)))
    rw [pairs]
    cases differs : p.pairs.anyM differ with
    | error e =>
        obtain ⟨rfl, stalls⟩ := anyM_differ_eq_error_iff.mp differs
        constructor
        · rintro ⟨⟩
          exact ⟨rfl, declares, stalls⟩
        · rintro ⟨rfl, -, -⟩
          rfl
    | ok found =>
        have compares : ¬ Stalls p.pairs := by
          intro stalls
          rw [anyM_differ_eq_error_iff.mpr ⟨rfl, stalls⟩] at differs
          cases differs
        cases found with
        | true => simp [compares]
        | false =>
            have same := Fault.of_anyM_eq_false (pairs.trans differs)
            obtain ⟨zero, hzero⟩ := Fault.anyM_isOk fun x hx =>
              Container.requestsZero_isOk (h x hx) (same x hx)
            rw [Fault.ok_bind, hzero]
            cases zero <;> simp [compares]

/-- Else there is one. -/
theorem qos_isOk_iff {p : Pod} (h : ∀ x ∈ p.containers, x.Declared) :
    (∃ q, p.qos = .ok q) ↔ ¬ p.Unclassed := by
  cases hq : p.qos with
  | ok q =>
      refine iff_of_true ⟨q, rfl⟩ fun stalls => ?_
      rw [(qos_eq_error_iff h).mpr ⟨rfl, stalls⟩] at hq
      cases hq
  | error f => exact iff_of_false (by simp) (not_not_intro ((qos_eq_error_iff h).mp hq).2)

/-- What has no class declares a text of a signaling NaN. -/
theorem Unclassed.exists_text {p : Pod} (h : p.Unclassed) :
    ∃ x ∈ p.containers, ∃ r ∈ Container.resources, ∃ s negative,
      (x.requests.under r = .text s ∨ x.limits.under r = .text s) ∧
        Quantity.parse? s = some (.nan negative true) := by
  obtain ⟨pair, hpair, signaling⟩ := h.2.exists_signaling
  obtain ⟨x, hx, hpair⟩ := List.mem_flatMap.mp hpair
  obtain ⟨r, hr, rfl⟩ := List.mem_map.mp hpair
  rcases signaling with request | limit
  · obtain ⟨s, negative, hs, parsed⟩ := Document.text_of_isSignaling request
    exact ⟨x, hx, r, hr, s, negative, .inl hs, parsed⟩
  · obtain ⟨s, negative, hs, parsed⟩ := Document.text_of_isSignaling limit
    exact ⟨x, hx, r, hr, s, negative, .inr hs, parsed⟩

end Pod

/-! ## Texts that are no quantities -/

/-- A text that is no quantity replaced by that of zero. -/
def Quantity.legible : Document → Document
  | .text s => if (parse? s).isNone then .text "0" else .text s
  | d => d

theorem Quantity.ofDocument_legible (d : Document) : ofDocument (legible d) = ofDocument d := by
  cases d with
  | text s =>
      simp only [legible]
      split
      · next unreadable =>
        have zero : read "0" = .zero := by decide
        rw [ofDocument, ofDocument, zero, read, Option.isNone_iff_eq_none.mp unreadable]
        rfl
      · rfl
  | _ => rfl

namespace Document

/-- The fields of an object, each put through a function. -/
def mapFields (g : Document → Document) : Document → Document
  | .object fields => .object (fields.map fun (name, d) => (name, g d))
  | d => d

theorem isTruthy_mapFields (g : Document → Document) (d : Document) :
    (d.mapFields g).isTruthy = d.isTruthy := by
  cases d <;> simp [mapFields, isTruthy]

theorem field?_map (g : Document → Document) (name : String) (fields : List (String × Document)) :
    field? name (fields.map fun (name, d) => (name, g d)) = (field? name fields).map g := by
  rw [field?, field?, List.find?_map, Option.map_map, Option.map_map]
  rfl

end Document

theorem amount_legible (d : Document) (resource : String) :
    amount (d.mapFields Quantity.legible) resource = amount d resource := by
  rw [amount, amount, d.isTruthy_mapFields]
  split
  · cases d with
    | object fields =>
        simp only [Document.mapFields, Document.part, Document.field?_map, Fault.ok_map]
        cases Document.field? resource fields with
        | none => rfl
        | some d => exact congrArg _ (Quantity.ofDocument_legible d)
    | _ => rfl
  · rfl

/-- The amounts of a container that are no quantities are zero. -/
def Container.legible (x : Container) : Container :=
  { x with requests := x.requests.mapFields Quantity.legible
           limits := x.limits.mapFields Quantity.legible }

def Pod.legible (p : Pod) : Pod := { p with containers := p.containers.map Container.legible }

theorem Pod.qos_legible (p : Pod) : p.legible.qos = p.qos := by
  have nothing : Container.declaresNothing ∘ Container.legible = Container.declaresNothing := by
    funext x
    simp only [Function.comp_apply, Container.declaresNothing, Container.legible,
      Document.isTruthy_mapFields]
  have differ : Container.requestsDiffer ∘ Container.legible = Container.requestsDiffer := by
    funext x
    simp only [Function.comp_apply, Container.requestsDiffer, Container.requestsLimit,
      Container.legible, amount_legible]
  have zero : Container.requestsZero ∘ Container.legible = Container.requestsZero := by
    funext x
    simp only [Function.comp_apply, Container.requestsZero, Container.legible, amount_legible]
  simp only [qos, legible, QosClass.ofContainers, List.isEmpty_map, List.any_map, Fault.anyM_map,
    nothing, differ, zero]

namespace Ranking

section

variable {profiles : ProfileStore} {label : Document} {pods : List Pod}

theorem sortKey_legible (p : Pod) : sortKey profiles label p.legible = sortKey profiles label p := by
  simp only [sortKey, p.qos_legible]
  rfl

theorem rank_legible : rank profiles label (pods.map Pod.legible) =
    (rank profiles label pods).map (List.map Pod.legible) := by
  have ranked : rank profiles label (pods.map id) = _ := rank_map id pods
  rw [List.map_id] at ranked
  rw [rank_map, ranked]
  simp only [sortKey_legible, id_eq]
  cases pods.mapM fun p => (sortKey profiles label p).map (·, p) with
  | error f => rfl
  | ok ks => simp

/-- Pods with any amounts, whose labels can be looked up, and profiles with numbers for their
priorities. -/
structure Posed (profiles : ProfileStore) (label : Document) (pods : List Pod) : Prop where
  labelKey : label.isKey = true
  workloadKey : ∀ p ∈ pods, (p.workload label).isKey = true
  declared : ∀ p ∈ pods, ∀ x ∈ p.containers, x.Declared
  priorities : profiles.Sound

theorem Posed.keyed_isOk_iff (h : Posed profiles label pods) {p : Pod} (hp : p ∈ pods) :
    (∃ k, keyed profiles label p = .ok k) ↔ ¬ p.Unclassed := by
  rw [← Pod.qos_isOk_iff (h.declared p hp)]
  constructor
  · rintro ⟨k, hk⟩
    obtain ⟨key, hkey, -⟩ := Fault.map_eq_ok_iff.mp hk
    obtain ⟨-, -, hkey⟩ := Fault.bind_eq_ok_iff.mp hkey
    obtain ⟨q, hq, -⟩ := Fault.bind_eq_ok_iff.mp hkey
    exact ⟨q, hq⟩
  · rintro ⟨q, hq⟩
    have made : ∃ k, SortKey.make q (p.profile? profiles label) = .ok k :=
      SortKey.make_isOk fun profile hprofile => h.priorities.profile? hprofile
    obtain ⟨k, hk⟩ := made
    refine ⟨(k, p), Fault.map_eq_ok_iff.mpr ⟨k, ?_, rfl⟩⟩
    rw [sortKey, h.labelKey, h.workloadKey p hp, hq]
    exact hk

theorem Posed.rank_isOk_iff (h : Posed profiles label pods) :
    (∃ ranked, rank profiles label pods = .ok ranked) ↔ ∀ p ∈ pods, ¬ p.Unclassed := by
  have keys : (∃ ranked, rank profiles label pods = .ok ranked) ↔
      ∃ ks, pods.mapM (keyed profiles label) = .ok ks := by
    simp only [rank, Fault.map_eq_ok_iff]
    exact ⟨fun ⟨_, ks, hks, _⟩ => ⟨ks, hks⟩, fun ⟨ks, hks⟩ => ⟨_, ks, hks, rfl⟩⟩
  rw [keys, Fault.mapM_isOk_iff]
  exact forall₂_congr fun p hp => h.keyed_isOk_iff hp

/-- A pod has a class whatever its amounts are, unless comparing them stalls, and pods can be ranked
if each of them has a class. Comparing stalls only at the text of a signaling NaN, and a text that is no
quantity might as well be that of zero. -/
theorem amounts_of_any_text (h : Posed profiles label pods) :
    (∀ p ∈ pods, (∃ q, p.qos = .ok q) ↔ ¬ p.Unclassed) ∧
      ((∃ ranked, rank profiles label pods = .ok ranked) ↔ ∀ p ∈ pods, ¬ p.Unclassed) ∧
      (∀ p ∈ pods, p.Unclassed → ∃ x ∈ p.containers, ∃ r ∈ Container.resources, ∃ s negative,
        (x.requests.under r = .text s ∨ x.limits.under r = .text s) ∧
          Quantity.parse? s = some (.nan negative true)) ∧
      (∀ p ∈ pods, p.legible.qos = p.qos) ∧
      rank profiles label (pods.map Pod.legible) =
        (rank profiles label pods).map (List.map Pod.legible) :=
  ⟨fun p hp => Pod.qos_isOk_iff (h.declared p hp), h.rank_isOk_iff, fun _ _ => Pod.Unclassed.exists_text,
    fun p _ => p.qos_legible, rank_legible⟩

end

namespace Sample

/-- Pods that ask for no quantity, for a NaN and for more than can be told. -/
def oddPods : List Pod := [pod "a" "web" "lots", pod "b" "batch" "NaN", pod "c" "web" "9e999999E"]

theorem posed : Posed profiles label oddPods where
  labelKey := rfl
  workloadKey := by decide +kernel
  declared := by
    have declared : ∀ p ∈ oddPods, ∀ x ∈ p.containers, x.requests.isOptional Document.isObject = true ∧
        x.limits.isOptional Document.isObject = true := by decide +kernel
    exact fun p hp x hx => ⟨(declared p hp x hx).1, (declared p hp x hx).2⟩
  priorities := by
    intro x hx
    change x ∈ [_, _] at hx
    simp only [List.mem_cons, List.not_mem_nil, or_false] at hx
    rcases hx with rfl | rfl <;> rfl

end Sample

open Sample in
theorem amounts_of_any_text_sample :
    Posed profiles label oddPods ∧ (∀ p ∈ oddPods, p.qos = .ok .burstable) ∧
      ∃ ranked, rank profiles label oddPods = .ok ranked := by
  have classes : ∀ p ∈ oddPods, p.qos = .ok .burstable := by decide +kernel
  have any := amounts_of_any_text posed
  exact ⟨posed, classes, any.2.1.mpr fun p hp => (any.1 p hp).mp ⟨_, classes p hp⟩⟩

open Sample in
/-- A signaling NaN among the requests leaves a pod without a class, and a list with it without a
ranking. -/
theorem signaling_unanswered :
    (pod "a" "web" "sNaN").qos = .error .incomparable ∧
      rank profiles label [pod "a" "web" "sNaN"] = .error .incomparable :=
  ⟨rfl, rfl⟩

end Ranking

end NodeRelief
