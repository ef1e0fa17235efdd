import NodeRelief.Proofs.Cluster
import NodeRelief.Proofs.Cycle.Bounds
import NodeRelief.Proofs.Cycle.Chronicle
import NodeRelief.Proofs.Cycle.Containment
import NodeRelief.Scene
import Mathlib.Data.List.Forall2

/-! # The trail that a cycle leaves

The events of a cycle that comes to a result tell all that it did: the degraded nodes, and then of every
candidate that went through the gate what became of it, in one group of events. -/

namespace NodeRelief

open List (Forall₂)

variable {σ : Type}

/-! ## Events -/

/-- Whether an event has that reason. -/
def Event.isOf (r : Reason) (e : Event) : Bool := e.reason = .text r.text

/-- The event that was recorded with an exchange. -/
def Exchange.report? : Exchange σ → Option Event
  | ⟨_, .record e, .ok ()⟩ => some e
  | _ => none

/-- The events that were recorded, in order. -/
def reports (l : List (Exchange σ)) : List Event := l.filterMap Exchange.report?

@[simp] theorem reports_append (l l' : List (Exchange σ)) : reports (l ++ l') = reports l ++ reports l' :=
  List.filterMap_append ..

section Recorder

variable {κ : Type} {backend : Backend κ} {s s' : Scene κ} {es : List Event}

/-- A recorder in memory holds one event more when it has answered that it took it, and none otherwise. -/
theorem recorder_reply (backend : Backend κ) (q : Query) (hs : s.recorder = .memory es) :
    ((Scene.world backend).reply q s).2.recorder =
      .memory (es ++ (Exchange.report? ⟨s, q, ((Scene.world backend).reply q s).1⟩).toList) := by
  have unheard : Recorder.memory es = .memory (es ++ []) := by rw [List.append_nil]
  cases q with
  | call call => exact hs.trans unheard
  | clock => exact hs.trans unheard
  | cancelled => exact hs.trans unheard
  | record e =>
      have reply : (Scene.world backend).reply (.record e) s =
          ((Recorder.record e (.memory es)).1, { s with recorder := (Recorder.record e (.memory es)).2 }) := by
        rw [← hs]
        rfl
      rw [reply, Recorder.record, Recorder.checked]
      cases e.flaw? with
      | none => rfl
      | some flaw => exact unheard

theorem recorder_of_leads {l : List (Exchange (Scene κ))} (h : (Scene.world backend).Leads s l s')
    (hs : s.recorder = .memory es) : s'.recorder = .memory (es ++ reports l) := by
  induction l generalizing s es with
  | nil =>
      rw [← show s = s' from h, hs]
      simp [reports]
  | cons e l ih =>
      obtain ⟨he, h⟩ := h
      rw [ih h (recorder_reply backend e.query hs), ← he, List.append_assoc]
      congr 2
      cases hr : e.report? with
      | none => simp [reports, hr]
      | some event => simp [reports, hr]

end Recorder

/-! ## Changes -/

/-- The pod of a request for an eviction that was accepted. -/
def evictedPod? : Pod × Except Fault Unit → Option Pod
  | (p, .ok ()) => some p
  | (_, .error _) => none

/-- The pods that were evicted, in order. -/
def evictedPods (l : List (Exchange σ)) : List Pod := (evictions l).filterMap evictedPod?

@[simp] theorem evictedPods_append (l l' : List (Exchange σ)) :
    evictedPods (l ++ l') = evictedPods l ++ evictedPods l' := by
  rw [evictedPods, evictions_append, List.filterMap_append]
  rfl

theorem accepted_eq_map (l : List (Exchange σ)) : accepted l = (evictedPods l).map Pod.key := by
  rw [evictedPods, List.map_filterMap]
  refine List.filterMap_congr fun x _ => ?_
  obtain ⟨p, a⟩ := x
  cases a with
  | ok u => rfl
  | error f => rfl

/-- A patch of an owner: the owner, what was to be written, and what was answered. -/
structure Patch where
  owner : Owner
  entries : Holding
  answer : Except Fault Unit

def Exchange.patch? : Exchange σ → Option Patch
  | ⟨_, .call (.annotateOwner o entries), a⟩ => some ⟨o, entries, a⟩
  | _ => none

/-- The patches that were asked for, in order. -/
def patches (l : List (Exchange σ)) : List Patch := l.filterMap Exchange.patch?

@[simp] theorem patches_append (l l' : List (Exchange σ)) : patches (l ++ l') = patches l ++ patches l' :=
  List.filterMap_append ..

theorem patches_of_reads {l : List (Exchange σ)} (h : ∀ e ∈ l, e.query.isRead = true) :
    patches l = [] := by
  refine List.filterMap_eq_nil_iff.mpr fun e he => ?_
  have reads := h e he
  simp only [Exchange.patch?]
  split
  · cases reads
  · rfl

/-- Queries of a cycle between the list of nodes and the first visit. -/
def Query.prepares : Query → Bool
  | .cancelled | .record _ | .call .listPods => true
  | _ => false

namespace Cycle

open Admission (Knows cooldownOf violated?)

/-! ## What is told of a candidate -/

/-- What follows once an eviction may be asked for: the exchanges, the end of the visit and the events. -/
inductive Sequel (c : Config) (n : Node) (p : Pod) :
    Option Owner → List (Exchange σ) → Verdict → List Event → Prop where
  | limited {owner} (s message s') :
      Sequel c n p owner [⟨s, .call (.evict p c.gracePeriod), .error (.rateLimited message)⟩,
        ⟨s', .record (.evictionRateLimited p), .ok ()⟩] .rateLimited [.evictionRateLimited p]
  | failed {owner a message} (ha : Eviction.outcome? a = some (.failed message)) (s s') :
      Sequel c n p owner [⟨s, .call (.evict p c.gracePeriod), a⟩,
        ⟨s', .record (.evictionFailed p (Eviction.told message)), .ok ()⟩] .passed
        [.evictionFailed p (Eviction.told message)]
  | unowned (s s') :
      Sequel c n p none [⟨s, .call (.evict p c.gracePeriod), .ok ()⟩,
        ⟨s', .record (.podEvicted p n.name), .ok ()⟩] .evicted [.podEvicted p n.name]
  | cooled {o} (t : Instant) (s s' s₁ now s₂ s₃) :
      Sequel c n p (some o) [⟨s, .call (.evict p c.gracePeriod), .ok ()⟩,
        ⟨s', .record (.podEvicted p n.name), .ok ()⟩, ⟨s₁, .clock, .ok now⟩,
        ⟨s₂, .call (.annotateOwner o (Cooldown.entry c.cooldownMark t)), .ok ()⟩,
        ⟨s₃, .record (.cooldownSet o (Timestamp.write t)), .ok ()⟩] .evicted
        [.podEvicted p n.name, .cooldownSet o (Timestamp.write t)]
  | uncooled {o} (t : Instant) (message s s' s₁ now s₂ s₃) :
      Sequel c n p (some o) [⟨s, .call (.evict p c.gracePeriod), .ok ()⟩,
        ⟨s', .record (.podEvicted p n.name), .ok ()⟩, ⟨s₁, .clock, .ok now⟩,
        ⟨s₂, .call (.annotateOwner o (Cooldown.entry c.cooldownMark t)), .error (.ownerPatch message)⟩,
        ⟨s₃, .record (.cooldownFailed o message), .ok ()⟩] .evicted
        [.podEvicted p n.name, .cooldownFailed o message]

/-- What follows once the owner of a candidate is known: the exchanges, the end of the visit and the one
group of events about the candidate. -/
inductive Tells (c : Config) (n : Node) (p : Pod) (now : Instant) :
    Option Owner → List (Exchange σ) → Verdict → List Event → Prop where
  | cooling {owner o t} (hc : cooldownOf c.cooldownMark owner now = .ok (some (o, t))) (s) :
      Tells c n p now owner [⟨s, .record (.evictionSkipped p o (Timestamp.write t)), .ok ()⟩] .passed
        [.evictionSkipped p o (Timestamp.write t)]
  | forbidden {owner bs reason} (hc : cooldownOf c.cooldownMark owner now = .ok none)
      (hv : violated? p bs = .ok (some reason)) (s s') :
      Tells c n p now owner [⟨s, .call (.listBudgets p.ns), .ok bs⟩,
        ⟨s', .record (.budgetViolation p reason), .ok ()⟩] .passed [.budgetViolation p reason]
  | unchecked {owner} (hc : cooldownOf c.cooldownMark owner now = .ok none) (s message s') :
      Tells c n p now owner [⟨s, .call (.listBudgets p.ns), .error (.listing message)⟩,
        ⟨s', .record (.budgetCheckFailed p message), .ok ()⟩] .passed [.budgetCheckFailed p message]
  | requested {owner l v es} (hc : cooldownOf c.cooldownMark owner now = .ok none) (bs)
      (hv : violated? p bs = .ok none) (s) (hl : Sequel c n p owner l v es) :
      Tells c n p now owner (⟨s, .call (.listBudgets p.ns), .ok bs⟩ :: l) v es

/-- What is told of a candidate: nothing if it did not come to the gate, else one group of events. -/
inductive Heard (c : Config) (v : Visited σ) : List Event → Prop where
  | unheard (s stop) (hv : v.exchanges = [⟨s, .cancelled, stop⟩]) : Heard c v []
  | heard {now k l owner verdict es} (s s')
      (hv : v.exchanges = ⟨s, .cancelled, false⟩ :: ⟨s', .clock, .ok now⟩ :: (k ++ l))
      (hk : Knows v.pod k owner) (hl : Tells c v.node v.pod now owner l verdict es)
      (ending : v.ending = .ok verdict) : Heard c v es

variable {c : Config} {profiles : ProfileStore} {n : Node} {p : Pod} {now : Instant}
  {owner : Option Owner} {k l : List (Exchange σ)} {es : List Event} {v : Verdict}

theorem forbidden_of_obstacle? {bs : List Budget} {e : Event} {message : String}
    (h : Admission.obstacle? p (violated? p bs) = some (e, message)) :
    violated? p bs = .ok (some message) ∧ e = .budgetViolation p message := by
  cases hv : violated? p bs with
  | error f =>
      obtain rfl := Admission.violated?_eq_error hv
      rw [hv] at h
      cases h
  | ok violation =>
      rw [hv] at h
      cases violation with
      | none => cases h
      | some reason =>
          cases h
          exact ⟨rfl, rfl⟩

theorem tells_of_rejected {d : Decision} (hj : Admission.Judges c.cooldownMark p now l (.ok d))
    (hd : d.admitted = false) : ∃ owner k m es, l = k ++ m ∧ Knows p k owner ∧
      Tells c n p now owner m .passed es := by
  generalize ho : Except.ok d = o at hj
  cases hj with
  | unresolved hr hf => cases ho
  | unreadable ho' hc => cases ho
  | @cooling k owner o t ho' hc s r message d hr =>
      rw [← ho, Fault.map_eq_ok_iff] at hr
      obtain ⟨⟨⟩, rfl, -⟩ := hr
      exact ⟨owner, k, _, _, rfl, ho', .cooling hc s⟩
  | free ho' hc hv s =>
      cases ho
      cases hd
  | @hindered k owner bs e message ho' hc hv s s' r d' hr =>
      rw [← ho, Fault.map_eq_ok_iff] at hr
      obtain ⟨⟨⟩, rfl, -⟩ := hr
      cases bs with
      | ok bs =>
          obtain ⟨violated, rfl⟩ := forbidden_of_obstacle? hv
          exact ⟨owner, k, _, _, rfl, ho', .forbidden hc violated s s'⟩
      | error f =>
          cases f with
          | listing text =>
            cases hv
            exact ⟨owner, k, _, _, rfl, ho', .unchecked hc s message s'⟩
          | _ => cases hv
  | unclear ho' hc hf hv s => cases ho

theorem sequel_of_attempts (ha : Attempts c n p owner l (.ok v)) : ∃ es, Sequel c n p owner l v es := by
  generalize hv : Except.ok v = o at ha
  cases ha with
  | rateLimited ha s s' r hr =>
      rw [← hv, Fault.map_eq_ok_iff] at hr
      obtain ⟨⟨⟩, rfl, rfl⟩ := hr
      obtain rfl := Eviction.eq_of_outcome?_rateLimited ha
      exact ⟨_, .limited s _ s'⟩
  | failed ha s s' r hr =>
      rw [← hv, Fault.map_eq_ok_iff] at hr
      obtain ⟨⟨⟩, rfl, rfl⟩ := hr
      exact ⟨_, .failed ha s s'⟩
  | broken ha s => cases hv
  | unreported s s' f => cases hv
  | evicted hl s s' hu =>
      rw [← hv, Fault.map_eq_ok_iff] at hu
      obtain ⟨_, hu, rfl⟩ := hu
      cases hl with
      | unowned => exact ⟨_, .unowned s s'⟩
      | timeless s₁ f => cases hu
      | @recorded o now k v hk s₁ u hw =>
          rw [hu, Fault.map_eq_ok_iff] at hw
          obtain ⟨w, hw, -⟩ := hw
          cases hk with
          | unreadable hd => cases hw
          | endless hd hn => cases hw
          | @written previous t hd hn s₂ s₃ r w' hr =>
              rw [hw, Fault.map_eq_ok_iff] at hr
              obtain ⟨⟨⟩, rfl, -⟩ := hr
              exact ⟨_, .cooled t s s' s₁ now s₂ s₃⟩
          | @refused previous t hd hn s₂ message s₃ r w' hr =>
              rw [hw, Fault.map_eq_ok_iff] at hr
              obtain ⟨⟨⟩, rfl, -⟩ := hr
              exact ⟨_, .uncooled t message s s' s₁ now s₂ s₃⟩
          | broken hd hn hf s₂ => cases hw

theorem Visits.heard (hl : Visits c profiles n p l (.ok v)) :
    ∃ es, Heard c ⟨n, p, l, .ok v⟩ es := by
  generalize hv : Except.ok v = o at hl
  cases hl with
  | cancelled s => exact ⟨[], .unheard s _ rfl⟩
  | ineligible he s => exact ⟨[], .unheard s _ rfl⟩
  | timeless he s s' f => cases hv
  | unjudged he hj s s' => cases hv
  | rejected he hj hd s s' =>
      obtain ⟨owner, k, m, es, rfl, hk, tells⟩ := tells_of_rejected (n := n) hj hd
      exact ⟨es, .heard s s' rfl hk tells rfl⟩
  | admitted he hj hd ha s s' =>
      subst hv
      obtain ⟨k, s₀, bs, rfl, hk, cooled, unforbidden⟩ := hj.of_admitted hd
      obtain ⟨es, sequel⟩ := sequel_of_attempts ha
      refine ⟨es, .heard s s' ?_ hk (.requested cooled bs unforbidden s₀ sequel) rfl⟩
      rw [List.append_assoc]
      rfl

/-- Exchanges without events, evictions and patches. -/
structure Mute (l : List (Exchange σ)) : Prop where
  reports : reports l = []
  evictedPods : evictedPods l = []
  patches : patches l = []

theorem mute_of_knows (hk : Knows p k owner) : Mute k := by
  have mute : ∀ e ∈ k, e.report? = none ∧ e.eviction? = none ∧ e.patch? = none := by
    intro e he
    obtain ⟨id, hq⟩ := hk.reads e he
    obtain ⟨s, q, a⟩ := e
    subst hq
    exact ⟨rfl, rfl, rfl⟩
  have unasked : evictions k = [] := List.filterMap_eq_nil_iff.mpr fun e he => (mute e he).2.1
  refine ⟨List.filterMap_eq_nil_iff.mpr fun e he => (mute e he).1, ?_,
    List.filterMap_eq_nil_iff.mpr fun e he => (mute e he).2.2⟩
  rw [evictedPods, unasked]
  rfl

/-! ## What the events tell -/

/-- How a patch of an owner is told. -/
inductive Settles (c : Config) : Event → Patch → Prop where
  | set (o : Owner) (t : Instant) :
      Settles c (.cooldownSet o (Timestamp.write t)) ⟨o, Cooldown.entry c.cooldownMark t, .ok ()⟩
  | failed (o : Owner) (entries : Holding) (message : String) :
      Settles c (.cooldownFailed o message) ⟨o, entries, .error (.ownerPatch message)⟩

/-- Whether an event is about the cooldown of an owner. -/
def isOfCooldown (e : Event) : Bool := e.isOf .cooldownSet || e.isOf .cooldownFailed

/-- The events tell of the evictions and of the patches, one by one and in order. -/
structure Tallies (c : Config) (l : List (Exchange σ)) : Prop where
  evicted : Forall₂ (fun e p => ∃ n : Node, e = .podEvicted p n.name)
    ((reports l).filter (·.isOf .podEvicted)) (evictedPods l)
  settled : Forall₂ (Settles c) ((reports l).filter isOfCooldown) (patches l)

namespace Tallies

theorem append {l' : List (Exchange σ)} (hl : Tallies c l) (hl' : Tallies c l') :
    Tallies c (l ++ l') := by
  refine ⟨?_, ?_⟩
  · rw [reports_append, List.filter_append, evictedPods_append]
    exact List.rel_append hl.evicted hl'.evicted
  · rw [reports_append, List.filter_append, patches_append]
    exact List.rel_append hl.settled hl'.settled

end Tallies

theorem Mute.tallies (hl : Mute l) : Tallies c l := by
  refine ⟨?_, ?_⟩
  · rw [hl.reports, hl.evictedPods]
    exact .nil
  · rw [hl.reports, hl.patches]
    exact .nil

theorem Sequel.tallies (hl : Sequel c n p owner l v es) : reports l = es ∧ Tallies c l := by
  cases hl with
  | limited s message s' => exact ⟨rfl, .nil, .nil⟩
  | @failed owner a message ha s s' =>
      cases a with
      | ok u => cases ha
      | error f => exact ⟨rfl, .nil, .nil⟩
  | unowned s s' => exact ⟨rfl, .cons ⟨n, rfl⟩ .nil, .nil⟩
  | cooled t s s' s₁ now s₂ s₃ => exact ⟨rfl, .cons ⟨n, rfl⟩ .nil, .cons (.set _ t) .nil⟩
  | uncooled t message s s' s₁ now s₂ s₃ =>
      exact ⟨rfl, .cons ⟨n, rfl⟩ .nil, .cons (.failed _ _ message) .nil⟩

theorem Tells.tallies (hl : Tells c n p now owner l v es) : reports l = es ∧ Tallies c l := by
  cases hl with
  | cooling hc s => exact ⟨rfl, .nil, .nil⟩
  | forbidden hc hv s s' => exact ⟨rfl, .nil, .nil⟩
  | unchecked hc s message s' => exact ⟨rfl, .nil, .nil⟩
  | requested hc bs hv s hl =>
      obtain ⟨told, tallies⟩ := hl.tallies
      have listed : Mute ([⟨s, .call (.listBudgets p.ns), .ok bs⟩] : List (Exchange σ)) :=
        ⟨rfl, rfl, rfl⟩
      exact ⟨told, listed.tallies.append tallies⟩

theorem Heard.tallies {v : Visited σ} (hv : Heard c v es) :
    reports v.exchanges = es ∧ Tallies c v.exchanges := by
  cases hv with
  | unheard s stop hv =>
      rw [hv]
      exact ⟨rfl, .nil, .nil⟩
  | @heard now k l owner verdict es s s' hv hk hl ending =>
      obtain ⟨told, tallies⟩ := hl.tallies
      have opened : Mute ([⟨s, .cancelled, false⟩, ⟨s', .clock, .ok now⟩] : List (Exchange σ)) :=
        ⟨rfl, rfl, rfl⟩
      have known := mute_of_knows hk
      have split : v.exchanges = [⟨s, .cancelled, false⟩, ⟨s', .clock, .ok now⟩] ++ (k ++ l) := hv
      rw [split]
      refine ⟨?_, opened.tallies.append (known.tallies.append tallies)⟩
      rw [reports_append, reports_append, opened.reports, known.reports, told]
      rfl

/-! ## Rate limits -/

/-- A rate limit is the only event about its candidate, and the visit ends with it. -/
theorem Heard.limited {v : Visited σ} (hv : Heard c v es) :
    (∀ e ∈ es, e.isOf .evictionRateLimited = false) ∨
      v.ending = .ok .rateLimited ∧ ∃ e, es = [e] := by
  cases hv with
  | unheard s stop hv => exact .inl (by simp)
  | heard s s' hv hk hl ending =>
      cases hl with
      | cooling hc s => exact .inl (List.forall_mem_singleton.mpr rfl)
      | forbidden hc hv s s' => exact .inl (List.forall_mem_singleton.mpr rfl)
      | unchecked hc s message s' => exact .inl (List.forall_mem_singleton.mpr rfl)
      | requested hc bs hv s hl =>
          cases hl with
          | limited s message s' => exact .inr ⟨ending, _, rfl⟩
          | failed ha s s' => exact .inl (List.forall_mem_singleton.mpr rfl)
          | unowned s s' => exact .inl (List.forall_mem_singleton.mpr rfl)
          | cooled t s s' s₁ now s₂ s₃ =>
              exact .inl (List.forall_mem_cons.mpr ⟨rfl, List.forall_mem_singleton.mpr rfl⟩)
          | uncooled t message s s' s₁ now s₂ s₃ =>
              exact .inl (List.forall_mem_cons.mpr ⟨rfl, List.forall_mem_singleton.mpr rfl⟩)

/-- Nothing is told after a rate limit. -/
def EndsLimited (es : List Event) : Prop :=
  ∀ a e b, es = a ++ e :: b → e.isOf .evictionRateLimited = true → b = []

theorem endsLimited_of_forall (h : ∀ e ∈ es, e.isOf .evictionRateLimited = false) :
    EndsLimited es := by
  rintro a e b rfl limited
  rw [h e (by simp)] at limited
  cases limited

theorem endsLimited_concat {e : Event} (h : ∀ e ∈ es, e.isOf .evictionRateLimited = false) :
    EndsLimited (es ++ [e]) := by
  intro a x b split limited
  rcases List.eq_nil_or_concat' b with rfl | ⟨b, y, rfl⟩
  · rfl
  · rw [← List.cons_append, ← List.append_assoc] at split
    obtain ⟨rfl, -⟩ := List.append_inj' split rfl
    rw [h x (by simp)] at limited
    cases limited

/-! ## The visits and the whole cycle -/

/-- Something is told of every visit that ended well. -/
theorem Visited.Made.heard {v : Visited σ} (made : v.Made c profiles) (returned : v.ending.isOk = true) :
    ∃ es, Heard c v es := by
  obtain ⟨n, p, l, o⟩ := v
  cases o with
  | error f => cases returned
  | ok verdict => exact Visits.heard made

theorem exists_groups {vs : List (Visited σ)} (heard : ∀ v ∈ vs, ∃ es, Heard c v es) :
    ∃ groups, Forall₂ (Heard c) vs groups := by
  induction vs with
  | nil => exact ⟨[], .nil⟩
  | cons v vs ih =>
      obtain ⟨es, hes⟩ := heard v (by simp)
      obtain ⟨groups, rest⟩ := ih fun x hx => heard x (by simp [hx])
      exact ⟨es :: groups, .cons hes rest⟩

theorem tallies_of_heard {vs : List (Visited σ)} {groups : List (List Event)}
    (heard : Forall₂ (Heard c) vs groups) :
    reports (exchangesOf vs) = groups.flatten ∧ Tallies c (exchangesOf vs) := by
  induction heard with
  | nil => exact ⟨rfl, .nil, .nil⟩
  | @cons v es vs groups hv _ ih =>
      obtain ⟨told, tallies⟩ := hv.tallies
      have split : exchangesOf (v :: vs) = v.exchanges ++ exchangesOf vs := List.flatMap_cons ..
      rw [split, reports_append, told, ih.1]
      exact ⟨rfl, tallies.append ih.2⟩

theorem Visited.isOk_of_isPassing {v : Visited σ} (passing : v.isPassing = true) :
    v.ending.isOk = true := by
  obtain ⟨n, p, l, o⟩ := v
  cases o with
  | error f => cases passing
  | ok verdict => rfl

/-- No visit of a cycle that comes to a result ended in a fault. -/
theorem Concludes.returned {vs : List (Visited σ)} {r : CycleResult} (hvs : Follows c profiles vs)
    (ho : Concludes c vs (.ok r)) : ∀ v ∈ vs, v.ending.isOk = true := by
  cases ho with
  | finished passing => exact fun v hv => Visited.isOk_of_isPassing (passing v hv)
  | rateLimited split limited =>
      subst split
      exact hvs.forall_of_last (fun _ => Visited.isOk_of_isPassing) (by rw [limited]; rfl)
  | cancelled split cancelled =>
      subst split
      exact hvs.forall_of_last (fun _ => Visited.isOk_of_isPassing) (by rw [cancelled]; rfl)

theorem Announces.reports {es : List Event} (hk : Announces es k (.ok ())) : reports k = es := by
  generalize ho : Except.ok () = o at hk
  induction hk with
  | done => rfl
  | told h s ih => exact congrArg (List.cons _) (ih ho)
  | failed s f => cases ho

theorem Announces.prepares {u : Except Fault Unit} (hk : Announces es k u) :
    ∀ e ∈ k, e.query.prepares = true := by
  induction hk with
  | done => simp
  | told h s ih => simpa [Query.prepares] using ih
  | failed s f => simp [Query.prepares]

/-- What is told before the first visit: the degraded ones of the nodes, if those could be listed. -/
theorem Opens.announced {o : CycleResult ⊕ List Node × List Pod} (hk : Opens c profiles k (.ok o)) :
    ((∀ s ns, ⟨s, .call .listNodes, .ok ns⟩ ∉ k) ∧ reports k = [] ∧ ∃ r, o = .inl r) ∨
      ∃ s s' nodes m, k = ⟨s, .cancelled, false⟩ :: ⟨s', .call .listNodes, .ok nodes⟩ :: m ∧
        (∀ e ∈ m, e.query.prepares = true) ∧
        reports m = (nodes.filter (isDegraded c)).map .nodeDegraded := by
  have filtered {nodes ds} (hd : degraded c nodes = .ok ds) : ds = nodes.filter (isDegraded c) :=
    (Fault.ifKey_eq_ok_iff.mp hd).2.symm
  cases hk with
  | unprofiled hp => exact .inl ⟨by simp, rfl, _, rfl⟩
  | cancelled s => exact .inl ⟨by simp, rfl, _, rfl⟩
  | nodesUnlisted s s' message => exact .inl ⟨by simp, rfl, _, rfl⟩
  | healthy hd s s' => exact .inr ⟨s, s', _, [], rfl, by simp, by rw [← filtered hd]; rfl⟩
  | stopped hd hk s s' s'' =>
      refine .inr ⟨s, s', _, _, rfl, ?_, ?_⟩
      · simpa [Query.prepares, or_imp, forall_and] using hk.prepares
      · rw [reports_append, hk.reports, ← filtered hd]
        exact List.append_nil _
  | podsUnlisted hd hk s s' s'' s₃ message =>
      refine .inr ⟨s, s', _, _, rfl, ?_, ?_⟩
      · simpa [Query.prepares, or_imp, forall_and] using hk.prepares
      · rw [reports_append, hk.reports, ← filtered hd]
        exact List.append_nil _
  | opened hd hk s s' s'' s₃ =>
      refine .inr ⟨s, s', _, _, rfl, ?_, ?_⟩
      · simpa [Query.prepares, or_imp, forall_and] using hk.prepares
      · rw [reports_append, hk.reports, ← filtered hd]
        exact List.append_nil _

/-- The events of a cycle: none without a list of nodes, else the degraded nodes and then a group for every
candidate that came to the gate. -/
inductive Trail (c : Config) (l : List (Exchange σ)) : Prop where
  | silent (unlisted : ∀ s ns, ⟨s, .call .listNodes, .ok ns⟩ ∉ l) (told : reports l = [])
  | told {m vs groups} (s s' nodes)
      (hl : l = ⟨s, .cancelled, false⟩ :: ⟨s', .call .listNodes, .ok nodes⟩ :: (m ++ exchangesOf vs))
      (prepared : ∀ e ∈ m, e.query.prepares = true) (heard : Forall₂ (Heard c) vs groups)
      (told : reports l = (nodes.filter (isDegraded c)).map .nodeDegraded ++ groups.flatten)

/-- What the events of a cycle tell of it. -/
structure Audited (c : Config) (r : CycleResult) (l : List (Exchange σ)) : Prop where
  trail : Trail c l
  limited : EndsLimited (reports l)
  /-- The pods that are told to be evicted are those whose evictions were accepted. -/
  evicted : Forall₂ (fun e p => ∃ n : Node, e = .podEvicted p n.name)
    ((reports l).filter (·.isOf .podEvicted)) (evictedPods l)
  result : r.evicted = (evictedPods l).map Pod.key
  /-- Every patch is told, and the deadlines that are told to be set are those that were written. -/
  settled : Forall₂ (Settles c) ((reports l).filter isOfCooldown) (patches l)
  set : Forall₂ (Settles c) ((reports l).filter (·.isOf .cooldownSet))
    ((patches l).filter (·.answer.isOk))

/-- Events of the opening are about nodes. -/
theorem tallies_of_nodes {nodes : List Node} (reads : ∀ e ∈ k, e.query.isRead = true)
    (told : reports k = nodes.map .nodeDegraded) : Tallies c k := by
  have unmatched (q : Event → Bool) (h : ∀ n : Node, q (.nodeDegraded n) = false) :
      (reports k).filter q = [] := by
    rw [told, List.filter_eq_nil_iff]
    intro e he
    obtain ⟨n, -, rfl⟩ := List.mem_map.mp he
    simp [h n]
  refine ⟨?_, ?_⟩
  · rw [unmatched _ fun n => rfl, evictedPods, evictions_of_reads reads]
    exact .nil
  · rw [unmatched _ fun n => rfl, patches_of_reads reads]
    exact .nil

/-- Only the last of visits in a row may tell of a rate limit. -/
theorem endsLimited_of_follows {vs : List (Visited σ)} (hvs : Follows c profiles vs)
    (heard : ∀ v ∈ vs, ∃ es, Heard c v es)
    (unlimited : ∀ e ∈ es, e.isOf .evictionRateLimited = false) :
    EndsLimited (es ++ reports (exchangesOf vs)) := by
  rcases List.eq_nil_or_concat' vs with rfl | ⟨init, last, rfl⟩
  · exact endsLimited_of_forall (by simpa [reports] using unlimited)
  have earlier : ∀ e ∈ es ++ reports (exchangesOf init), e.isOf .evictionRateLimited = false := by
    intro e he
    rcases List.mem_append.mp he with he | he
    · exact unlimited e he
    obtain ⟨x, hx, told⟩ := List.mem_filterMap.mp he
    obtain ⟨v, hv, hx⟩ := List.mem_flatMap.mp hx
    obtain ⟨group, heard⟩ := heard v (by simp [hv])
    have among : e ∈ group := by
      rw [← heard.tallies.1]
      exact List.mem_filterMap.mpr ⟨x, hx, told⟩
    rcases heard.limited with quiet | ⟨ending, -⟩
    · exact quiet e among
    · have passing := hvs.passing v (by simpa using hv)
      simp [Visited.isPassing, ending] at passing
  obtain ⟨group, heard⟩ := heard last (by simp)
  rw [exchangesOf_append, exchangesOf_singleton, reports_append, heard.tallies.1, ← List.append_assoc]
  rcases heard.limited with quiet | ⟨-, e, rfl⟩
  · refine endsLimited_of_forall fun e he => ?_
    rcases List.mem_append.mp he with he | he
    · exact earlier e he
    · exact quiet e he
  · exact endsLimited_concat earlier

/-- The deadlines that are told to be set are those of the accepted patches. -/
theorem Tallies.set (hl : Tallies c l) : Forall₂ (Settles c)
    ((reports l).filter (·.isOf .cooldownSet)) ((patches l).filter (·.answer.isOk)) := by
  have among : ((reports l).filter isOfCooldown).filter (·.isOf .cooldownSet) =
      (reports l).filter (·.isOf .cooldownSet) := by
    rw [List.filter_filter]
    exact List.filter_congr fun e _ => by simp +contextual [isOfCooldown]
  rw [← among]
  refine List.rel_filter ?_ hl.settled
  intro e x settles
  cases settles with
  | set o t => exact Iff.rfl
  | failed o entries message => exact iff_of_false (by simp; rfl) (by simp [Except.isOk, Except.toBool])

theorem audited_of_tallies {r : CycleResult} (trail : Trail c l) (limited : EndsLimited (reports l))
    (tallies : Tallies c l) (told : r.evicted = accepted l) : Audited c r l :=
  ⟨trail, limited, tallies.evicted, told.trans (accepted_eq_map l), tallies.settled, tallies.set⟩

theorem audited_of_chronicle {r : CycleResult} (h : Chronicle c profiles l (.ok r))
    (told : r.evicted = accepted l) : Audited c r l := by
  have unlimited (nodes : List Node) : ∀ e ∈ nodes.map Event.nodeDegraded,
      e.isOf .evictionRateLimited = false := by
    intro e he
    obtain ⟨n, -, rfl⟩ := List.mem_map.mp he
    rfl
  cases h with
  | closed hk =>
      rcases hk.announced with ⟨unlisted, silent, -⟩ | ⟨s, s', nodes, m, rfl, prepared, announced⟩
      · refine audited_of_tallies (.silent unlisted silent) (by simp [silent, EndsLimited]) ?_ told
        exact tallies_of_nodes hk.reads (silent.trans List.map_nil.symm)
      · have silent : reports (⟨s, .cancelled, false⟩ :: ⟨s', .call .listNodes, .ok nodes⟩ :: m) =
            (nodes.filter (isDegraded c)).map .nodeDegraded := announced
        refine audited_of_tallies (.told s s' nodes ?_ prepared .nil ?_) ?_ ?_ told
        · simp
        · simpa using silent
        · rw [silent]
          exact endsLimited_of_forall (unlimited _)
        · exact tallies_of_nodes hk.reads silent
  | visited hk hvs ho =>
      have heard := fun v hv => (hvs.made v hv).heard (ho.returned hvs v hv)
      obtain ⟨groups, hgroups⟩ := exists_groups heard
      obtain ⟨visitsTold, tallies⟩ := tallies_of_heard hgroups
      rcases hk.announced with ⟨-, -, r, ⟨⟩⟩ | ⟨s, s', nodes, m, rfl, prepared, announced⟩
      have opened : reports (⟨s, .cancelled, false⟩ :: ⟨s', .call .listNodes, .ok nodes⟩ :: m) =
          (nodes.filter (isDegraded c)).map .nodeDegraded := announced
      refine audited_of_tallies (.told s s' nodes rfl prepared hgroups ?_) ?_ ?_ told
      · rw [reports_append, opened, visitsTold]
      · rw [reports_append, opened]
        exact endsLimited_of_follows hvs heard (unlimited _)
      · exact (tallies_of_nodes hk.reads opened).append tallies

/-- In any world a cycle that comes to a result leaves a complete trail of events, and a recorder in memory
holds it. -/
theorem trail_complete (c : Config) (profiles : ProfileStore) :
    (∀ {σ : Type} (w : World σ) (s : σ) (r : CycleResult),
      ((reconcile c profiles).run w s).outcome = .ok r →
        Audited c r ((reconcile c profiles).run w s).exchanges) ∧
      ∀ {κ : Type} (backend : Backend κ) (s : Scene κ) (es : List Event), s.recorder = .memory es →
        ((reconcile c profiles).run (Scene.world backend) s).state.recorder =
          .memory (es ++ reports ((reconcile c profiles).run (Scene.world backend) s).exchanges) := by
  refine ⟨fun w s r hr => ?_, fun backend s es hs => recorder_of_leads (.run ..) hs⟩
  have closes := closes_reconcile c profiles w s
  have chronicle := chronicle_reconcile c profiles w s
  rw [hr] at closes chronicle
  exact audited_of_chronicle chronicle closes.1.evicted

open Sample in
/-- Of three pods the eviction of the first fails, the second is evicted but its owner cannot be patched,
and the third is put off. -/
theorem trail_complete_sample :
    (∃ r, ((reconcile patientConfig Sample.profiles).run Client.world failingScene).outcome = .ok r ∧
      Audited patientConfig r
        ((reconcile patientConfig Sample.profiles).run Client.world failingScene).exchanges ∧
      (reports ((reconcile patientConfig Sample.profiles).run Client.world
        failingScene).exchanges).map (·.reason) =
        ["NodeDegraded", "NodeDegraded", "NodeDegraded", "EvictionFailed", "PodEvicted",
          "CooldownAnnotationFailed", "EvictionRateLimited"]) ∧
    scene.recorder = .memory [] ∧
    ((reconcile sweep Sample.profiles).run Cluster.world scene).state.recorder =
      .memory ([] ++ reports ((reconcile sweep Sample.profiles).run Cluster.world scene).exchanges) := by
  have returned : ((reconcile patientConfig Sample.profiles).run Client.world failingScene).outcome =
      .ok ⟨standardBackoff, ["shop/web-2"], true, false, none⟩ := by decide +kernel
  obtain ⟨audited, -⟩ := trail_complete patientConfig Sample.profiles
  obtain ⟨-, recorded⟩ := trail_complete sweep Sample.profiles
  refine ⟨⟨_, returned, audited _ _ _ returned, ?_⟩, rfl, recorded _ scene [] rfl⟩
  decide +kernel

end Cycle

end NodeRelief
