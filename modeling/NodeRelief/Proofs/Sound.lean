import NodeRelief.Api.Request
import NodeRelief.Cycle
import NodeRelief.Proofs.Fault
import NodeRelief.Proofs.Ranking

/-! # Sound objects

Objects whose names are texts that are not empty, whose keys can be looked up and whose amounts are
finite. Whatever a cycle works out about them has a result. The names are not empty because a recorder
refuses an event about an object without a name, and a cycle records events about each kind of them. -/

namespace NodeRelief

/-! ## Sound documents -/

def Decimal.isFinite : Decimal → Bool
  | .finite .. => true
  | _ => false

namespace Document

def isText (d : Document) : Bool := d.text?.isSome

/-- A text that is not empty. -/
def isName : Document → Bool
  | .text s => s != ""
  | _ => false

/-- A text, or nothing at all. -/
def isOptionalText : Document → Bool
  | .null | .text _ => true
  | _ => false

/-- Whether every amount that is declared of a resource, or taken for zero, is finite. -/
def declaresFinite (d : Document) : Bool :=
  Container.resources.all fun r =>
    match amount d r with
    | .ok a => a.isFinite
    | .error _ => false

theorem isText_iff {d : Document} : d.isText = true ↔ ∃ s, d = .text s := by
  cases d <;> simp [isText, text?]

theorem isKey_of_isText {d : Document} (h : d.isText = true) : d.isKey = true := by
  obtain ⟨s, rfl⟩ := isText_iff.mp h
  rfl

theorem isText_of_isName {d : Document} (h : d.isName = true) : d.isText = true := by
  cases d with
  | text s => rfl
  | _ => cases h

theorem isTruthy_of_isName {d : Document} (h : d.isName = true) : d.isTruthy = true := by
  cases d with
  | text s => exact h
  | _ => cases h

theorem isOptionalText_of_isText {d : Document} (h : d.isText = true) : d.isOptionalText = true := by
  obtain ⟨s, rfl⟩ := isText_iff.mp h
  rfl

end Document

/-! ## Sound objects of a cluster -/

/-- A node with a name: an event about one without is refused. -/
structure Node.Sound (n : Node) : Prop where
  name : n.name.isName = true
  uid : n.uid.isOptionalText = true

structure Container.Sound (x : Container) : Prop where
  requests : x.requests.declaresFinite = true
  limits : x.limits.declaresFinite = true

/-- A pod with a name, as for a node, whose workload type can be looked up and whose amounts are finite. -/
structure Pod.Sound (c : Config) (p : Pod) : Prop where
  name : p.name.isName = true
  ns : p.ns.isText = true
  uid : p.uid.isOptionalText = true
  workload : (p.workload c.workloadLabel).isKey = true
  containers : ∀ x ∈ p.containers, x.Sound
  owners : ∀ r ∈ p.owners, r.name.isText = true

/-- An owner with a name, as for a node, whose cooldown annotation, if there is one, may be any text. -/
structure Owner.Sound (c : Config) (o : Owner) : Prop where
  name : o.name.isName = true
  ns : o.ns.isText = true
  uid : o.uid.isOptionalText = true
  owners : ∀ r ∈ o.owners, r.name.isText = true
  cooldown : ∀ d ∈ o.annotations.get? c.cooldownMark, d.isText = true

structure Selector.Sound (s : Selector) : Prop where
  labels : ∀ pair ∈ s.labels.items, pair.1.isKey = true
  requirements : ∀ r ∈ s.requirements, r.key.isKey = true

def Budget.Sound (b : Budget) : Prop := ∀ s ∈ b.selector, s.Sound

structure Config.Sound (c : Config) : Prop where
  degradedMark : c.degradedMark.isKey = true
  workloadLabel : c.workloadLabel.isKey = true
  cooldownMark : c.cooldownMark.isKey = true
  gracePeriod : integerComplaints "grace_period_seconds" c.gracePeriod = []

def ProfileStore.Sound (profiles : ProfileStore) : Prop :=
  ∀ p ∈ profiles.items, p.priority.asNumber?.isSome = true

variable {c : Config}

/-! ## What is worked out about them -/

theorem Document.amount_isOk {d : Document} {r : String} (h : d.declaresFinite = true)
    (hr : r ∈ Container.resources) : ∃ negative m e, amount d r = .ok (.finite negative m e) := by
  have finite := List.all_eq_true.mp h r hr
  cases ha : amount d r with
  | error f => simp [ha] at finite
  | ok a =>
      cases a with
      | finite negative m e => exact ⟨negative, m, e, rfl⟩
      | _ => simp [ha, Decimal.isFinite] at finite

namespace Container.Sound

variable {x : Container} {r : String}

theorem requestsLimit_isOk (h : x.Sound) (hr : r ∈ resources) : ∃ b, x.requestsLimit r = .ok b := by
  obtain ⟨negative, m, e, requested⟩ := Document.amount_isOk h.requests hr
  obtain ⟨negative', m', e', limited⟩ := Document.amount_isOk h.limits hr
  rw [requestsLimit, requested, limited]
  exact ⟨_, rfl⟩

theorem requestsDiffer_isOk (h : x.Sound) : ∃ b, x.requestsDiffer = .ok b := by
  apply Fault.anyM_isOk
  intro r hr
  obtain ⟨b, hb⟩ := h.requestsLimit_isOk hr
  exact ⟨!b, Fault.map_eq_ok_iff.mpr ⟨b, hb, rfl⟩⟩

theorem requestsZero_isOk (h : x.Sound) : ∃ b, x.requestsZero = .ok b := by
  apply Fault.anyM_isOk
  intro r hr
  obtain ⟨negative, m, e, requested⟩ := Document.amount_isOk h.requests hr
  rw [requested]
  exact ⟨_, rfl⟩

end Container.Sound

theorem QosClass.ofContainers_isOk {containers : List Container} (h : ∀ x ∈ containers, x.Sound) :
    ∃ q, ofContainers containers = .ok q := by
  simp only [ofContainers]
  split
  · exact ⟨.bestEffort, rfl⟩
  obtain ⟨differs, hd⟩ := Fault.anyM_isOk fun x hx => (h x hx).requestsDiffer_isOk
  obtain ⟨zero, hz⟩ := Fault.anyM_isOk fun x hx => (h x hx).requestsZero_isOk
  rw [hd, hz]
  cases differs with
  | true => exact ⟨.burstable, rfl⟩
  | false =>
      cases zero with
      | true => exact ⟨.bestEffort, rfl⟩
      | false => exact ⟨.guaranteed, rfl⟩

theorem SortKey.make_isOk {q : QosClass} {profile : Option Profile}
    (h : ∀ p ∈ profile, p.priority.asNumber?.isSome = true) : ∃ k, make q profile = .ok k := by
  cases profile with
  | none => exact ⟨_, rfl⟩
  | some p =>
      obtain ⟨n, hn⟩ := Option.isSome_iff_exists.mp (h p rfl)
      refine ⟨_, Fault.map_eq_ok_iff.mpr ⟨n, ?_, rfl⟩⟩
      rw [Document.asNumber, hn]

theorem ProfileStore.Sound.profile? {profiles : ProfileStore} (h : profiles.Sound) {p : Pod}
    {label : Document} {profile : Profile} (hp : p.profile? profiles label = some profile) :
    profile.priority.asNumber?.isSome = true :=
  h _ (Pod.profile?_eq_some_iff.mp hp).stored

/-- Sound pods can be ranked. -/
theorem Ranking.rank_isOk {profiles : ProfileStore} {pods : List Pod} (hc : c.Sound)
    (hprofiles : profiles.Sound) (hpods : ∀ p ∈ pods, p.Sound c) :
    ∃ ranked, rank profiles c.workloadLabel pods = .ok ranked := by
  suffices ∃ ks, pods.mapM (keyed profiles c.workloadLabel) = .ok ks ∧ ∀ k ∈ ks, True by
    obtain ⟨ks, hk, -⟩ := this
    exact ⟨_, Fault.map_eq_ok_iff.mpr ⟨ks, hk, rfl⟩⟩
  apply Fault.mapM_isOk
  intro p hp
  obtain ⟨q, hq⟩ := QosClass.ofContainers_isOk (hpods p hp).containers
  have numbered (profile : Profile) (hprofile : p.profile? profiles c.workloadLabel = some profile) :
      profile.priority.asNumber?.isSome = true := hprofiles.profile? hprofile
  obtain ⟨k, hk⟩ := SortKey.make_isOk (q := q) numbered
  refine ⟨(k, p), Fault.map_eq_ok_iff.mpr ⟨k, ?_, rfl⟩, trivial⟩
  simp only [sortKey]
  simp only [Fault.bind_eq_ok_iff, Fault.ifKey_eq_ok_iff, and_true, exists_const, Bool.and_eq_true]
  exact ⟨⟨hc.workloadLabel, (hpods p hp).workload⟩, q, hq, hk⟩

/-! Sound budgets can be held against any labels. -/

theorem Holding.has_of_isKey {k : Document} (h : k.isKey = true) (labels : Labels) :
    has labels k = .ok (labels.hasKey k) :=
  Fault.ifKey_eq_ok_iff.mpr ⟨h, rfl⟩

theorem Requirement.lists_of_isKey {r : Requirement} (h : r.key.isKey = true) (labels : Labels) :
    r.lists labels = .ok (r.values.any ((labels.get? r.key).getD .null).agrees) := by
  have item : Holding.item labels r.key = .ok ((labels.get? r.key).getD .null) :=
    Fault.ifKey_eq_ok_iff.mpr ⟨h, rfl⟩
  exact Fault.map_eq_ok_iff.mpr ⟨_, item, rfl⟩

theorem Requirement.meets_isOk {r : Requirement} (h : r.key.isKey = true) (labels : Labels) :
    ∃ b, r.meets labels = .ok b := by
  simp only [meets]
  rw [Holding.has_of_isKey h]
  simp only [bind, Except.bind, lists_of_isKey h]
  split
  all_goals exact ⟨_, rfl⟩

theorem Selector.hasPair_of_isKey {pair : Document × Document} (h : pair.1.isKey = true) (labels : Labels) :
    hasPair labels pair = .ok (((labels.get? pair.1).getD .null).equals pair.2) := by
  have got : Holding.get labels pair.1 = .ok ((labels.get? pair.1).getD .null) :=
    Fault.ifKey_eq_ok_iff.mpr ⟨h, rfl⟩
  exact Fault.map_eq_ok_iff.mpr ⟨_, got, rfl⟩

theorem Selector.Sound.meets_isOk {s : Selector} (h : s.Sound) (labels : Labels) :
    ∃ b, s.meets labels = .ok b := by
  have pairs : ∃ b, s.labels.items.allM (hasPair labels) = .ok b :=
    Fault.allM_isOk fun pair hpair => ⟨_, hasPair_of_isKey (h.labels pair hpair) labels⟩
  have requirements : ∃ b, s.requirements.allM (·.meets labels) = .ok b :=
    Fault.allM_isOk fun r hr => Requirement.meets_isOk (h.requirements r hr) labels
  obtain ⟨all, hall⟩ := pairs
  simp only [meets]
  rw [hall]
  cases all with
  | true => exact requirements
  | false => exact ⟨false, rfl⟩

theorem Admission.forbids_isOk {b : Budget} (h : b.Sound) (labels : Labels) :
    ∃ forbidden, forbids b labels = .ok forbidden := by
  simp only [forbids, selects]
  cases hs : b.selector with
  | none => exact ⟨_, rfl⟩
  | some s =>
      simp only
      cases s.flaw? with
      | some flaw => exact ⟨false, rfl⟩
      | none =>
          obtain ⟨met, hmet⟩ := (h s hs).meets_isOk labels
          rw [hmet]
          exact ⟨_, rfl⟩

theorem Admission.violated?_isOk {bs : List Budget} (h : ∀ b ∈ bs, b.Sound) (p : Pod) :
    ∃ v, violated? p bs = .ok v := by
  induction bs with
  | nil => exact ⟨none, rfl⟩
  | cons b bs ih =>
      obtain ⟨forbidden, hf⟩ := forbids_isOk (h b (by simp)) p.labels
      rw [violated?, hf]
      cases forbidden with
      | true => exact ⟨_, rfl⟩
      | false => exact ih fun b hb => h b (by simp [hb])

theorem Cycle.degraded_isOk (hc : c.Sound) (nodes : List Node) :
    ∃ ds, degraded c nodes = .ok ds :=
  ⟨_, Fault.ifKey_eq_ok_iff.mpr ⟨by simp [hc.degradedMark], rfl⟩⟩

end NodeRelief
