import NodeRelief.Proofs.Quantity
import NodeRelief.Proofs.Ranking.Amounts
import NodeRelief.Proofs.Ranking.Classes

/-! # One amount in other words

A quantity can be written in many ways: with another multiple, with a point, with zeros or a plus sign in
front. In which of them the amounts of a pod are written changes neither its class nor its place among
other pods. -/

namespace NodeRelief

/-! ## Decimals -/

/-- One decimal, or two finite ones of one value. -/
inductive Decimal.Agree : Decimal → Decimal → Prop where
  | refl (a : Decimal) : Agree a a
  | finite {s s' : Bool} {c c' : ℕ} {e e' : ℤ}
      (value : (Decimal.finite s c e).value = (Decimal.finite s' c' e').value) :
      Agree (.finite s c e) (.finite s' c' e')

namespace Decimal.Agree

variable {a a' b b' : Decimal}

theorem equals?_left (h : a.Agree a') (b : Decimal) : a.equals? b = a'.equals? b := by
  cases h with
  | refl => rfl
  | finite value => cases b with
    | finite s c e => rw [equals?_finite, equals?_finite, value]
    | infinite negative => rfl
    | nan negative signaling => cases signaling <;> rfl

theorem equals?_right (a : Decimal) (h : b.Agree b') : a.equals? b = a.equals? b' := by
  cases h with
  | refl => rfl
  | finite value => cases a with
    | finite s c e => rw [equals?_finite, equals?_finite, value]
    | infinite negative => rfl
    | nan negative signaling => cases signaling <;> rfl

theorem sameAmount_eq (ha : a.Agree a') (hb : b.Agree b') : sameAmount a b = sameAmount a' b' := by
  rw [sameAmount, sameAmount, ha.equals?_left, hb.equals?_right a']

end Decimal.Agree

/-- Both fail alike, or have amounts that agree. -/
inductive AmountsAgree : Except Fault Decimal → Except Fault Decimal → Prop where
  | fault (f : Fault) : AmountsAgree (.error f) (.error f)
  | amounts {a b : Decimal} (agree : a.Agree b) : AmountsAgree (.ok a) (.ok b)

theorem AmountsAgree.refl (r : Except Fault Decimal) : AmountsAgree r r := by
  cases r with
  | error f => exact .fault f
  | ok a => exact .amounts (.refl a)

theorem AmountsAgree.sameAmount_eq {r r' t t' : Except Fault Decimal} (hr : AmountsAgree r r')
    (ht : AmountsAgree t t') :
    (do sameAmount (← r) (← t)) = (do sameAmount (← r') (← t') : Except Fault Bool) := by
  cases hr with
  | fault f => rfl
  | amounts ha => cases ht with
    | fault f => rfl
    | amounts hb => exact ha.sameAmount_eq hb

/-! ## Documents -/

namespace Document

/-- One document, or two texts of one quantity. -/
inductive SameQuantity : Document → Document → Prop where
  | refl (d : Document) : SameQuantity d d
  | text {v w : Quantity.Written} (fits : Decimal.Fits v.value) (value : v.value = w.value) :
      SameQuantity (.text v.text) (.text w.text)

theorem SameQuantity.agree {d d' : Document} (h : d.SameQuantity d') :
    (Quantity.ofDocument d).Agree (Quantity.ofDocument d') := by
  cases h with
  | refl => exact .refl _
  | text fits value =>
      obtain ⟨s, c, e, hv, valued⟩ := Quantity.Written.read_text fits
      obtain ⟨s', c', e', hw, valued'⟩ := Quantity.Written.read_text (value ▸ fits)
      rw [Quantity.ofDocument, hv, Quantity.ofDocument, hw]
      exact .finite (valued.trans (value.trans valued'.symm))

/-- The same fields with the same quantities under them. -/
def SameQuantities : List (String × Document) → List (String × Document) → Prop :=
  List.Forall₂ fun x y => x.1 = y.1 ∧ x.2.SameQuantity y.2

/-- One document, or two objects whose fields have texts of the same quantities. -/
inductive Respelled : Document → Document → Prop where
  | refl (d : Document) : Respelled d d
  | object {fields fields' : List (String × Document)} (same : SameQuantities fields fields') :
      Respelled (.object fields) (.object fields')

theorem sameQuantity_field? {fields fields' : List (String × Document)}
    (h : SameQuantities fields fields') (name : String) :
    ((field? name fields).getD .null).SameQuantity ((field? name fields').getD .null) := by
  induction h with
  | nil => exact .refl _
  | @cons x y xs ys head _ ih =>
      simp only [field?, List.find?_cons, head.1] at ih ⊢
      cases decide (y.1 = name) with
      | true => exact head.2
      | false => exact ih

namespace Respelled

variable {d d' : Document} (h : d.Respelled d')
include h

theorem isTruthy_eq : d.isTruthy = d'.isTruthy := by
  cases h with
  | refl => rfl
  | object same => cases same <;> rfl

theorem amountsAgree (resource : String) : AmountsAgree (amount d resource) (amount d' resource) := by
  have there := h.isTruthy_eq
  cases h with
  | refl => exact .refl _
  | object same =>
      rw [amount, amount, ← there]
      split
      · exact .amounts (sameQuantity_field? same resource).agree
      · exact .refl _

end Respelled

end Document

/-! ## Pods -/

/-- The amounts of a container, written in other ways. -/
structure Container.Respelled (x y : Container) : Prop where
  requests : x.requests.Respelled y.requests
  limits : x.limits.Respelled y.limits

namespace Container.Respelled

variable {x y : Container} (h : x.Respelled y)
include h

theorem declaresNothing_eq : x.declaresNothing = y.declaresNothing := by
  rw [declaresNothing, h.requests.isTruthy_eq, h.limits.isTruthy_eq, declaresNothing]

theorem requestsDiffer_eq : x.requestsDiffer = y.requestsDiffer := by
  refine Fault.anyM_congr fun r _ => ?_
  rw [requestsLimit, (h.requests.amountsAgree r).sameAmount_eq (h.limits.amountsAgree r), requestsLimit]

theorem requestsZero_eq : x.requestsZero = y.requestsZero :=
  Fault.anyM_congr fun r _ => (h.requests.amountsAgree r).sameAmount_eq (.refl (.ok .zero))

end Container.Respelled

/-- A pod and what it becomes when the amounts of its containers are written in other ways. -/
structure Pod.Respelled (p q : Pod) : Prop where
  containers : List.Forall₂ Container.Respelled p.containers q.containers
  rest : q = { p with containers := q.containers }

theorem QosClass.ofContainers_congr {xs ys : List Container}
    (h : List.Forall₂ Container.Respelled xs ys) : ofContainers xs = ofContainers ys := by
  have empty : xs.isEmpty = ys.isEmpty := by cases h <;> rfl
  have nothing : xs.any (·.declaresNothing) = ys.any (·.declaresNothing) := by
    clear empty
    induction h with
    | nil => rfl
    | cons head _ ih => rw [List.any_cons, List.any_cons, head.declaresNothing_eq, ih]
  have differ := Fault.anyM_of_forall₂ (h.imp fun _ _ => Container.Respelled.requestsDiffer_eq)
  have zero := Fault.anyM_of_forall₂ (h.imp fun _ _ => Container.Respelled.requestsZero_eq)
  rw [ofContainers, empty, nothing, differ, zero, ofContainers]

namespace Pod.Respelled

variable {p q : Pod} (h : p.Respelled q)
include h

theorem qos_eq : p.qos = q.qos := QosClass.ofContainers_congr h.containers

theorem sortKey_eq (profiles : ProfileStore) (label : Document) :
    Ranking.sortKey profiles label p = Ranking.sortKey profiles label q := by
  have labels : q.labels = p.labels := by rw [h.rest]
  have workload : q.workload label = p.workload label := by rw [workload, labels, workload]
  simp only [Ranking.sortKey, h.qos_eq, profile?, workload]

end Pod.Respelled

namespace Ranking

variable {profiles : ProfileStore} {label : Document}

/-- Pods and what they become are ranked in one order, or not at all. -/
theorem rank_respelled {pods : List (Pod × Pod)} (h : ∀ p ∈ pods, p.1.Respelled p.2) :
    (∃ f, rank profiles label (pods.map Prod.fst) = .error f ∧
      rank profiles label (pods.map Prod.snd) = .error f) ∨
    ∃ ranked : List (Pod × Pod), ranked.Perm pods ∧
      rank profiles label (pods.map Prod.fst) = .ok (ranked.map Prod.fst) ∧
      rank profiles label (pods.map Prod.snd) = .ok (ranked.map Prod.snd) := by
  rw [rank_map, rank_map]
  have keys : (pods.mapM fun p => (sortKey profiles label p.2).map (·, p)) =
      pods.mapM fun p => (sortKey profiles label p.1).map (·, p) :=
    Fault.mapM_congr fun p hp => by rw [(h p hp).sortKey_eq]
  rw [keys]
  cases hks : pods.mapM fun p => (sortKey profiles label p.1).map (·, p) with
  | error f => exact .inl ⟨f, rfl, rfl⟩
  | ok ks =>
      refine .inr ⟨(ks.mergeSort fun a b => a.1.le b.1).map Prod.snd, ?_, ?_, ?_⟩
      · have perm := (List.mergeSort_perm ks fun a b => a.1.le b.1).map Prod.snd
        rwa [Fault.map_snd_of_mapM hks] at perm
      · simp
      · simp

end Ranking

/-! ## Any quantity -/

theorem amount_of_under {d : Document} {r s : String} (h : d.under r = .text s) :
    amount d r = .ok (Quantity.read s) := by
  cases d with
  | object fields => cases fields with
    | nil => cases h
    | cons field rest =>
        have there : (Document.object (field :: rest)).isTruthy = true := rfl
        rw [amount, if_pos there]
        exact congrArg (fun d => Except.ok (Quantity.ofDocument d)) h
  | _ => cases h

theorem Container.requestsLimit_text {x : Container} {r : String} {v w : Quantity.Written}
    (hv : Decimal.Fits v.value) (hw : Decimal.Fits w.value)
    (requested : x.requests.under r = .text v.text) (limited : x.limits.under r = .text w.text) :
    x.requestsLimit r = .ok (decide (v.value = w.value)) := by
  obtain ⟨s, c, e, readv, valued⟩ := Quantity.Written.read_text hv
  obtain ⟨s', c', e', readw, valued'⟩ := Quantity.Written.read_text hw
  rw [requestsLimit, amount_of_under requested, amount_of_under limited, Fault.ok_bind, Fault.ok_bind,
    readv, readw, sameAmount_finite, valued, valued']

/-- A quantity of a whole number of billionths below ten to the nineteenth is read without rounding, in
whichever way it is written. So a request is found to be its limit just where the two have one value, and
writing amounts in other ways leaves the class of a pod as it is, and the order of any pods. -/
theorem spelling_never_matters :
    (∀ w : Quantity.Written, Decimal.Fits w.value → ∃ s c e,
      Quantity.ofDocument (.text w.text) = .finite s c e ∧ (Decimal.finite s c e).value = w.value) ∧
    (∀ (x : Container) (r : String) (v w : Quantity.Written),
      Decimal.Fits v.value → Decimal.Fits w.value →
      x.requests.under r = .text v.text → x.limits.under r = .text w.text →
      x.requestsLimit r = .ok (decide (v.value = w.value))) ∧
    (∀ p q : Pod, p.Respelled q → p.qos = q.qos) ∧
    ∀ (profiles : ProfileStore) (label : Document) (pods : List (Pod × Pod)),
      (∀ p ∈ pods, p.1.Respelled p.2) →
      (∃ f, Ranking.rank profiles label (pods.map Prod.fst) = .error f ∧
        Ranking.rank profiles label (pods.map Prod.snd) = .error f) ∨
      ∃ ranked : List (Pod × Pod), ranked.Perm pods ∧
        Ranking.rank profiles label (pods.map Prod.fst) = .ok (ranked.map Prod.fst) ∧
        Ranking.rank profiles label (pods.map Prod.snd) = .ok (ranked.map Prod.snd) :=
  ⟨fun _ => Quantity.Written.read_text, fun _ _ _ _ => Container.requestsLimit_text,
    fun _ _ => Pod.Respelled.qos_eq, fun _ _ _ => Ranking.rank_respelled⟩

namespace Ranking.Sample

open Numeral (Plain Sign)
open Quantity (Written Multiple)

def half : Written := ⟨⟨.none, ['0'], some ['5'], List.all_eq_true.mp rfl, by decide⟩, .one⟩

def milli : Written := ⟨⟨.none, ['5', '0', '0'], none, List.all_eq_true.mp rfl, by decide⟩, .milli⟩

theorem half_text : half.text = "0.5" := by decide +kernel

theorem milli_text : milli.text = "500m" := by decide +kernel

theorem half_value : half.value = 1 / 2 := by
  have coefficient : half.number.coefficient = 5 := rfl
  rw [Written.value, Plain.value, coefficient]
  norm_num [half, Plain.places, Sign.apply, Sign.isMinus, Multiple.factor]

theorem milli_value : milli.value = 1 / 2 := by
  have coefficient : milli.number.coefficient = 500 := rfl
  rw [Written.value, Plain.value, coefficient]
  norm_num [milli, Plain.places, Sign.apply, Sign.isMinus, Multiple.factor]

theorem fits : Decimal.Fits half.value := by
  rw [half_value]
  exact ⟨⟨500000000, by norm_num⟩, by norm_num [abs_lt]⟩

theorem value_eq : half.value = milli.value := half_value.trans milli_value.symm

theorem respelled (name workload : String) :
    (pod name workload half.text).Respelled (pod name workload milli.text) where
  containers := by
    have cpu : Document.SameQuantity (.text half.text) (.text milli.text) := .text fits value_eq
    exact .cons ⟨.object (.cons ⟨rfl, cpu⟩ (.cons ⟨rfl, .refl _⟩ .nil)), .refl _⟩ .nil
  rest := rfl

/-- Pods that request half a processor, and what they become when it is 500 thousandths of one. -/
def halves : List (Pod × Pod) :=
  [(pod "b" "batch" half.text, pod "b" "batch" milli.text),
    (pod "a" "web" half.text, pod "a" "web" milli.text)]

end Ranking.Sample

open Ranking.Sample in
theorem spelling_never_matters_sample :
    half.text = "0.5" ∧ milli.text = "500m" ∧ Decimal.Fits half.value ∧ half.value = milli.value ∧
      (∃ s c e, Quantity.ofDocument (.text "0.5") = .finite s c e ∧
        (Decimal.finite s c e).value = half.value) ∧
      (Container.mk (.text "c") (.object [("cpu", .text "0.5")])
        (.object [("cpu", .text "500m")])).requestsLimit "cpu" = .ok true ∧
      (pod "a" "web" "0.5").qos = (pod "a" "web" "500m").qos ∧
      ∃ ranked : List (Pod × Pod), ranked.Perm halves ∧
        Ranking.rank profiles label (halves.map Prod.fst) = .ok (ranked.map Prod.fst) ∧
        Ranking.rank profiles label (halves.map Prod.snd) = .ok (ranked.map Prod.snd) := by
  obtain ⟨value, compares, classes, ranks⟩ := spelling_never_matters
  have ranked : (Ranking.rank profiles label (halves.map Prod.fst)).isOk = true := by decide +kernel
  rw [← half_text, ← milli_text]
  refine ⟨rfl, rfl, fits, value_eq, value half fits, ?_, classes _ _ (respelled "a" "web"), ?_⟩
  · rw [compares _ _ half milli fits (value_eq ▸ fits) rfl rfl, decide_eq_true value_eq]
  · refine (ranks profiles label halves ?_).resolve_left ?_
    · simp only [halves, List.forall_mem_cons, List.not_mem_nil, false_implies, implies_true, and_true]
      exact ⟨respelled "b" "batch", respelled "a" "web"⟩
    · rintro ⟨f, failed, -⟩
      rw [failed] at ranked
      cases ranked

end NodeRelief
