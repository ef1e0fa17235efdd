import NodeRelief.Proofs.Number.Decimal
import NodeRelief.Proofs.Sound

/-! # Classes from values

Where all amounts are finite the class of a pod depends on their values alone: on what is true of some
container or of every one, not on how many there are or in which order, nor on any resource besides
those that are compared. -/

namespace NodeRelief

/-! ## Amounts -/

namespace Document

/-- The value of the amount of a resource; zero without one. -/
def valueOf (d : Document) (resource : String) : ℚ :=
  match amount d resource with
  | .ok a => a.value
  | .error _ => 0

theorem valueOf_of_not_isTruthy {d : Document} (h : d.isTruthy = false) (resource : String) :
    d.valueOf resource = 0 := by
  rw [valueOf, amount, if_neg (by simp [h])]
  exact Decimal.value_zero

/-- Whether two declarations differ at most in resources that are not compared: both declare nothing, or
both something and the same of each resource that is. -/
structure SameAmounts (d d' : Document) : Prop where
  there : d.isTruthy = d'.isTruthy
  parts : d.isTruthy = true → ∀ r ∈ Container.resources, d.part r = d'.part r

theorem SameAmounts.refl (d : Document) : SameAmounts d d := ⟨rfl, fun _ _ _ => rfl⟩

theorem SameAmounts.amount {d d' : Document} (h : SameAmounts d d') {r : String}
    (hr : r ∈ Container.resources) : amount d r = amount d' r := by
  rw [NodeRelief.amount, NodeRelief.amount, ← h.there]
  cases there : d.isTruthy with
  | true => rw [h.parts there r hr]
  | false => rfl

theorem SameAmounts.valueOf {d d' : Document} (h : SameAmounts d d') {r : String}
    (hr : r ∈ Container.resources) : d.valueOf r = d'.valueOf r := by
  rw [Document.valueOf, h.amount hr, Document.valueOf]

theorem SameAmounts.declaresFinite {d d' : Document} (h : SameAmounts d d')
    (finite : d.declaresFinite = true) : d'.declaresFinite = true := by
  rw [Document.declaresFinite, List.all_eq_true] at finite ⊢
  intro r hr
  rw [← h.amount hr]
  exact finite r hr

end Document

theorem sameAmount_finite {s s' : Bool} {c c' : ℕ} {e e' : ℤ} :
    sameAmount (.finite s c e) (.finite s' c' e') =
      .ok (decide ((Decimal.finite s c e).value = (Decimal.finite s' c' e').value)) := by
  rw [sameAmount, Decimal.equals?_finite]

/-! ## Containers -/

namespace Container

variable (x : Container)

def DeclaresSomething : Prop := x.requests.isTruthy = true ∨ x.limits.isTruthy = true

/-- Whether the request of some resource differs from its limit. -/
def Uneven : Prop := ∃ r ∈ resources, x.requests.valueOf r ≠ x.limits.valueOf r

/-- Whether no amount of some resource is requested. -/
def Wanting : Prop := ∃ r ∈ resources, x.requests.valueOf r = 0

/-- Whether every resource is requested, up to its limit. -/
def Full : Prop :=
  ∀ r ∈ resources, x.requests.valueOf r = x.limits.valueOf r ∧ x.requests.valueOf r ≠ 0

instance : Decidable x.Uneven := inferInstanceAs (Decidable (∃ r ∈ resources, _))

instance : Decidable x.Wanting := inferInstanceAs (Decidable (∃ r ∈ resources, _))

theorem declaresNothing_iff : x.declaresNothing = true ↔ ¬ x.DeclaresSomething := by
  simp [declaresNothing, DeclaresSomething]

theorem full_iff : x.Full ↔ ¬ x.Uneven ∧ ¬ x.Wanting := by
  simp only [Full, Uneven, Wanting, not_exists, not_and, not_not]
  exact ⟨fun h => ⟨fun r hr => (h r hr).1, fun r hr => (h r hr).2⟩,
    fun h r hr => ⟨h.1 r hr, h.2 r hr⟩⟩

variable {x}

/-- What has a request that is not zero declares something. -/
theorem Full.declaresSomething (h : x.Full) : x.DeclaresSomething := by
  by_contra nothing
  rw [DeclaresSomething, not_or, Bool.not_eq_true] at nothing
  exact (h "cpu" (by decide)).2 (Document.valueOf_of_not_isTruthy nothing.1 "cpu")

namespace Sound

theorem requestsLimit_eq (h : x.Sound) {r : String} (hr : r ∈ resources) :
    x.requestsLimit r = .ok (decide (x.requests.valueOf r = x.limits.valueOf r)) := by
  obtain ⟨s, c, e, requested⟩ := Document.amount_isOk h.requests hr
  obtain ⟨s', c', e', limited⟩ := Document.amount_isOk h.limits hr
  rw [requestsLimit, Document.valueOf, Document.valueOf, requested, limited]
  exact sameAmount_finite

theorem requestsDiffer_eq (h : x.Sound) : x.requestsDiffer = .ok (decide x.Uneven) := by
  have differs : ∀ r ∈ resources, (x.requestsLimit r).map (!·) =
      .ok (decide (x.requests.valueOf r ≠ x.limits.valueOf r)) := by
    intro r hr
    rw [h.requestsLimit_eq hr, Fault.ok_map, decide_not]
  rw [requestsDiffer, Fault.anyM_eq_any differs]
  congr 1
  rw [Bool.eq_iff_iff, List.any_eq_true, decide_eq_true_eq, Uneven]
  simp only [decide_eq_true_eq]

theorem requestsZero_eq (h : x.Sound) : x.requestsZero = .ok (decide x.Wanting) := by
  have zero : ∀ r ∈ resources, (do sameAmount (← amount x.requests r) .zero) =
      .ok (decide (x.requests.valueOf r = 0)) := by
    intro r hr
    obtain ⟨s, c, e, requested⟩ := Document.amount_isOk h.requests hr
    rw [Document.valueOf, requested, Fault.ok_bind, Decimal.zero, sameAmount_finite,
      Decimal.value_zero]
  rw [requestsZero, Fault.anyM_eq_any zero]
  congr 1
  rw [Bool.eq_iff_iff, List.any_eq_true, decide_eq_true_eq, Wanting]
  simp only [decide_eq_true_eq]

end Sound

/-- Whether two containers differ at most in their names and in resources that are not compared. -/
structure Alike (x y : Container) : Prop where
  requests : x.requests.SameAmounts y.requests
  limits : x.limits.SameAmounts y.limits

namespace Alike

variable {y : Container} (h : x.Alike y)
include h

theorem declaresSomething_iff : x.DeclaresSomething ↔ y.DeclaresSomething := by
  rw [DeclaresSomething, DeclaresSomething, h.requests.there, h.limits.there]

theorem uneven_iff : x.Uneven ↔ y.Uneven := by
  refine exists_congr fun r => and_congr_right fun hr => ?_
  rw [h.requests.valueOf hr, h.limits.valueOf hr]

theorem full_iff : x.Full ↔ y.Full := by
  refine forall₂_congr fun r hr => ?_
  rw [h.requests.valueOf hr, h.limits.valueOf hr]

theorem sound (hx : x.Sound) : y.Sound :=
  ⟨h.requests.declaresFinite hx.requests, h.limits.declaresFinite hx.limits⟩

end Alike

end Container

/-! ## Pods -/

namespace Pod

/-- Whether each container of one pod is like some container of the other, and the other way round. -/
structure Resembles (p q : Pod) : Prop where
  left : ∀ x ∈ p.containers, ∃ y ∈ q.containers, x.Alike y
  right : ∀ y ∈ q.containers, ∃ x ∈ p.containers, x.Alike y

def Full (p : Pod) : Prop := p.containers ≠ [] ∧ ∀ x ∈ p.containers, x.Full

def Uneven (p : Pod) : Prop :=
  (∀ x ∈ p.containers, x.DeclaresSomething) ∧ ∃ x ∈ p.containers, x.Uneven

/-- The class of a pod, by the values of what it requests and of its limits. -/
inductive Classed (p : Pod) : QosClass → Prop where
  | guaranteed (full : p.Full) : Classed p .guaranteed
  | burstable (uneven : p.Uneven) : Classed p .burstable
  | bestEffort (full : ¬ p.Full) (uneven : ¬ p.Uneven) : Classed p .bestEffort

theorem Full.not_uneven {p : Pod} (h : p.Full) : ¬ p.Uneven := by
  rintro ⟨-, x, hx, uneven⟩
  exact ((Container.full_iff x).mp (h.2 x hx)).1 uneven

theorem Classed.unique {p : Pod} {a b : QosClass} (ha : p.Classed a) (hb : p.Classed b) : a = b := by
  cases ha with
  | guaranteed full => cases hb with
    | guaranteed => rfl
    | burstable uneven => exact absurd uneven full.not_uneven
    | bestEffort not_full _ => exact absurd full not_full
  | burstable uneven => cases hb with
    | guaranteed full => exact absurd uneven full.not_uneven
    | burstable => rfl
    | bestEffort _ not_uneven => exact absurd uneven not_uneven
  | bestEffort not_full not_uneven => cases hb with
    | guaranteed full => exact absurd full not_full
    | burstable uneven => exact absurd uneven not_uneven
    | bestEffort => rfl

/-- The first scan ends where a pod has no containers or one of them declares nothing. -/
theorem scan_iff (p : Pod) :
    (p.containers.isEmpty || p.containers.any (·.declaresNothing)) = true ↔
      p.containers = [] ∨ ∃ x ∈ p.containers, ¬ x.DeclaresSomething := by
  simp [Container.declaresNothing_iff]

/-- The three scans of the containers come to the class. -/
theorem classed_qos {p : Pod} (h : ∀ x ∈ p.containers, x.Sound) :
    ∃ q, p.qos = .ok q ∧ p.Classed q := by
  rw [qos, QosClass.ofContainers]
  by_cases nothing : p.containers = [] ∨ ∃ x ∈ p.containers, ¬ x.DeclaresSomething
  · rw [if_pos (p.scan_iff.mpr nothing)]
    refine ⟨_, rfl, .bestEffort ?_ ?_⟩
    · rintro ⟨nonempty, full⟩
      obtain ⟨x, hx, nothing⟩ := nothing.resolve_left nonempty
      exact nothing (full x hx).declaresSomething
    · rintro ⟨declares, y, hy, -⟩
      obtain ⟨x, hx, nothing⟩ := nothing.resolve_left (List.ne_nil_of_mem hy)
      exact nothing (declares x hx)
  · rw [if_neg (mt p.scan_iff.mp nothing),
      Fault.anyM_eq_any fun x hx => (h x hx).requestsDiffer_eq,
      Fault.anyM_eq_any fun x hx => (h x hx).requestsZero_eq]
    obtain ⟨nonempty, declares⟩ : p.containers ≠ [] ∧ ∀ x ∈ p.containers, x.DeclaresSomething := by
      simpa using nothing
    cases uneven : p.containers.any fun x => decide x.Uneven with
    | true =>
        refine ⟨_, rfl, .burstable ⟨declares, ?_⟩⟩
        simpa using uneven
    | false =>
        have even : ∀ x ∈ p.containers, ¬ x.Uneven := by simpa using uneven
        have not_uneven : ¬ p.Uneven := by
          rintro ⟨-, x, hx, uneven⟩
          exact even x hx uneven
        cases wanting : p.containers.any fun x => decide x.Wanting with
        | true =>
            obtain ⟨x, hx, wanting⟩ : ∃ x ∈ p.containers, x.Wanting := by simpa using wanting
            refine ⟨_, rfl, .bestEffort (fun full => ?_) not_uneven⟩
            exact (x.full_iff.mp (full.2 x hx)).2 wanting
        | false =>
            have provided : ∀ x ∈ p.containers, ¬ x.Wanting := by simpa using wanting
            refine ⟨_, rfl, .guaranteed ⟨nonempty, fun x hx => ?_⟩⟩
            exact x.full_iff.mpr ⟨even x hx, provided x hx⟩

theorem qos_eq_ok_iff {p : Pod} (h : ∀ x ∈ p.containers, x.Sound) {q : QosClass} :
    p.qos = .ok q ↔ p.Classed q := by
  obtain ⟨c, hc, classed⟩ := classed_qos h
  rw [hc, Except.ok.injEq]
  exact ⟨fun same => same ▸ classed, classed.unique⟩

namespace Resembles

variable {p q : Pod} (h : p.Resembles q)
include h

theorem sound (hp : ∀ x ∈ p.containers, x.Sound) : ∀ y ∈ q.containers, y.Sound := by
  intro y hy
  obtain ⟨x, hx, alike⟩ := h.right y hy
  exact alike.sound (hp x hx)

theorem exists_iff {P : Container → Prop} (alike : ∀ x y, x.Alike y → (P x ↔ P y)) :
    (∃ x ∈ p.containers, P x) ↔ ∃ y ∈ q.containers, P y := by
  constructor
  · rintro ⟨x, hx, hP⟩
    obtain ⟨y, hy, same⟩ := h.left x hx
    exact ⟨y, hy, (alike x y same).mp hP⟩
  · rintro ⟨y, hy, hP⟩
    obtain ⟨x, hx, same⟩ := h.right y hy
    exact ⟨x, hx, (alike x y same).mpr hP⟩

theorem forall_iff {P : Container → Prop} (alike : ∀ x y, x.Alike y → (P x ↔ P y)) :
    (∀ x ∈ p.containers, P x) ↔ ∀ y ∈ q.containers, P y := by
  have none := not_congr (h.exists_iff (P := fun x => ¬ P x) fun x y same => not_congr (alike x y same))
  simpa using none

theorem full_iff : p.Full ↔ q.Full := by
  have nonempty : p.containers ≠ [] ↔ q.containers ≠ [] := by
    simpa [List.eq_nil_iff_forall_not_mem] using h.exists_iff (P := fun _ => True) fun _ _ _ => .rfl
  exact and_congr nonempty (h.forall_iff fun _ _ => Container.Alike.full_iff)

theorem uneven_iff : p.Uneven ↔ q.Uneven :=
  and_congr (h.forall_iff fun _ _ => Container.Alike.declaresSomething_iff)
    (h.exists_iff fun _ _ => Container.Alike.uneven_iff)

theorem classed {c : QosClass} (classed : p.Classed c) : q.Classed c := by
  cases classed with
  | guaranteed full => exact .guaranteed (h.full_iff.mp full)
  | burstable uneven => exact .burstable (h.uneven_iff.mp uneven)
  | bestEffort full uneven =>
      exact .bestEffort (mt h.full_iff.mpr full) (mt h.uneven_iff.mpr uneven)

end Resembles

/-- A pod whose amounts are finite is guaranteed just if it has containers and each of them requests every
resource up to its limit; burstable just if each of them declares something and some request
differs from its limit; and best effort otherwise. So the containers may be put into another order, or
repeated, and what they declare of any other resource may change: the class stays as it is. -/
theorem class_from_values {p : Pod} (h : ∀ x ∈ p.containers, x.Sound) :
    (p.qos = .ok .guaranteed ↔ p.containers ≠ [] ∧ ∀ x ∈ p.containers, x.Full) ∧
    (p.qos = .ok .burstable ↔
      (∀ x ∈ p.containers, x.DeclaresSomething) ∧ ∃ x ∈ p.containers, x.Uneven) ∧
    (p.qos = .ok .bestEffort ↔ p.qos ≠ .ok .guaranteed ∧ p.qos ≠ .ok .burstable) ∧
    ∀ q, p.Resembles q → q.qos = p.qos := by
  have guaranteed : p.qos = .ok .guaranteed ↔ p.Full := by
    rw [qos_eq_ok_iff h]
    exact ⟨fun | .guaranteed full => full, .guaranteed⟩
  have burstable : p.qos = .ok .burstable ↔ p.Uneven := by
    rw [qos_eq_ok_iff h]
    exact ⟨fun | .burstable uneven => uneven, .burstable⟩
  refine ⟨guaranteed, burstable, ?_, fun q resembles => ?_⟩
  · rw [ne_eq, guaranteed, ne_eq, burstable, qos_eq_ok_iff h]
    exact ⟨fun | .bestEffort full uneven => ⟨full, uneven⟩, fun ⟨full, uneven⟩ => .bestEffort full uneven⟩
  · obtain ⟨c, hc, classed⟩ := classed_qos h
    rw [hc, qos_eq_ok_iff (resembles.sound h)]
    exact resembles.classed classed

namespace Sample

def container (cpu : String) (others : List (String × Document)) : Container where
  name := .text "c"
  requests := .object ([("cpu", .text cpu), ("memory", .text "1Gi")] ++ others)
  limits := .object [("cpu", .text "1"), ("memory", .text "1024Mi")]

def pod (containers : List Container) : Pod where
  name := .text "a"
  ns := .text "shop"
  node := .text "node-a"
  phase := .running
  containers := containers
  labels := .empty
  owners := []
  uid := .null

def full : Container := container "1000m" []

def uneven : Container := container "500m" []

def uneven' : Container := container "500m" [("nvidia.com/gpu", .text "1")]

theorem alike : uneven.Alike uneven' where
  requests := by
    refine ⟨rfl, fun _ r hr => ?_⟩
    simp only [Container.resources, List.mem_cons, List.not_mem_nil, or_false] at hr
    rcases hr with rfl | rfl <;> rfl
  limits := .refl _

theorem resembles : (pod [full, uneven]).Resembles (pod [uneven', full, uneven]) where
  left := by
    simp only [pod, List.forall_mem_cons, List.not_mem_nil, false_implies, implies_true, and_true]
    exact ⟨⟨full, by simp, .refl _, .refl _⟩, uneven, by simp, .refl _, .refl _⟩
  right := by
    simp only [pod, List.forall_mem_cons, List.not_mem_nil, false_implies, implies_true, and_true]
    exact ⟨⟨uneven, by simp, alike⟩, ⟨full, by simp, .refl _, .refl _⟩, uneven, by simp, .refl _, .refl _⟩

theorem sound : ∀ x ∈ (pod [full, uneven]).containers, x.Sound := by
  have sound : ∀ x ∈ (pod [full, uneven]).containers,
      x.requests.declaresFinite = true ∧ x.limits.declaresFinite = true := by decide +kernel
  exact fun x hx => ⟨(sound x hx).1, (sound x hx).2⟩

end Sample

open Sample in
/-- A pod with a container repeated, its containers in another order, and another resource. -/
theorem class_from_values_sample :
    (∀ x ∈ (pod [full, uneven]).containers, x.Sound) ∧
      (pod [full, uneven]).Resembles (pod [uneven', full, uneven]) ∧
      (pod [full, uneven]).qos = .ok .burstable ∧
      (∃ x ∈ (pod [full, uneven]).containers, x.Uneven) ∧
      (pod [uneven', full, uneven]).qos = .ok .burstable := by
  obtain ⟨-, burstable, -, stays⟩ := class_from_values sound
  have class_eq : (pod [full, uneven]).qos = .ok .burstable := by decide +kernel
  exact ⟨sound, resembles, class_eq, (burstable.mp class_eq).2,
    (stays _ resembles).trans class_eq⟩

end Pod

end NodeRelief
