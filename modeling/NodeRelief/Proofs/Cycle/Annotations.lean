import NodeRelief.Proofs.Cycle.Justification
import NodeRelief.Proofs.Scene

/-! # Cycles and the annotations they meet

Owners may carry any text under the cooldown annotation. A text that denotes no instant counts as no
cooldown; one that denotes an instant outside the calendar ends a cycle that comes to read it on a fault,
and so does a deadline that cannot be followed by another. Nothing else does in a sound scene. -/

namespace NodeRelief

variable {c : Config}

/-! ## The text under the annotation -/

/-- The text under the cooldown annotation of an owner denotes an instant outside the calendar. -/
def Owner.Escapes (c : Config) (o : Owner) : Prop :=
  ∃ text, o.annotations.get? c.cooldownMark = some (.text text) ∧ Timestamp.Escapes text

theorem Cooldown.deadline_eq_error_iff {o : Owner} {f : Fault} (hc : c.Sound) (ho : o.Sound c) :
    deadline c.cooldownMark o = .error f ↔ f = .beyondCalendar ∧ o.Escapes c := by
  have key : Fault.ifKey c.cooldownMark.isKey () = .ok () :=
    Fault.ifKey_eq_ok_iff.mpr ⟨hc.cooldownMark, rfl⟩
  simp only [deadline, Owner.Escapes]
  rw [key]
  cases hd : o.annotations.get? c.cooldownMark with
  | none => simp [bind, Except.bind, pure, Except.pure]
  | some d =>
      obtain ⟨text, rfl⟩ := Document.isText_iff.mp (ho.cooldown d hd)
      simp only [bind, Except.bind, instant, Timestamp.read_eq_error_iff]
      simp

theorem Cooldown.deadline_isOk_iff {o : Owner} (hc : c.Sound) (ho : o.Sound c) :
    (∃ d, deadline c.cooldownMark o = .ok d) ↔ ¬ o.Escapes c := by
  cases hd : deadline c.cooldownMark o with
  | ok d =>
      have legible : ¬ o.Escapes c := by
        intro escapes
        have failed := (deadline_eq_error_iff hc ho).mpr ⟨rfl, escapes⟩
        rw [hd] at failed
        cases failed
      simp [legible]
  | error f => simp [((deadline_eq_error_iff hc ho).mp hd).2]

/-! ## The gate -/

/-- A gate that decides could tell the deadline of the owner. -/
theorem Admission.Judges.legible {σ : Type} {p : Pod} {now : Instant} {l : List (Exchange σ)}
    {d : Decision} (h : Judges c.cooldownMark p now l (.ok d)) :
    ∃ k k', l = k ++ k' ∧ Knows p k d.owner ∧
      ∀ o, d.owner = some o → ∃ t, Cooldown.deadline c.cooldownMark o = .ok t := by
  have told {owner : Option Owner} {r : Option (Owner × Instant)}
      (hc : cooldownOf c.cooldownMark owner now = .ok r) (o : Owner) (ho : owner = some o) :
      ∃ t, Cooldown.deadline c.cooldownMark o = .ok t := by
    rw [ho] at hc
    obtain ⟨_, active, -⟩ := Fault.map_eq_ok_iff.mp hc
    obtain ⟨t, ht, -⟩ := Fault.map_eq_ok_iff.mp active
    exact ⟨t, ht⟩
  generalize hd : Except.ok d = o at h
  cases h with
  | unresolved hr hf => cases hd
  | unreadable ho hc => cases hd
  | cooling ho hc s r message hr =>
      rw [← hd, Fault.map_eq_ok_iff] at hr
      obtain ⟨_, -, rfl⟩ := hr
      exact ⟨_, _, rfl, ho, told hc⟩
  | free ho hc hv s =>
      cases hd
      exact ⟨_, _, rfl, ho, told hc⟩
  | hindered ho hc hv s s' r hr =>
      rw [← hd, Fault.map_eq_ok_iff] at hr
      obtain ⟨_, -, rfl⟩ := hr
      exact ⟨_, _, rfl, ho, told hc⟩
  | unclear ho hc hf hv s => cases hd

theorem Scene.Sound.sane {s s' : Scene Cluster} {l : List (Exchange (Scene Cluster))}
    (h : s.Sound c) (ordered : Cycle.Orderly c l) (hl : Cluster.world.Leads s l s') :
    ∀ e ∈ l, e.Sane c :=
  (h.answered ordered hl).1

/-- The gate decides about a pod unless the text of its owner escapes the calendar. -/
theorem Admission.evaluate_isOk_iff {s : Scene Cluster} {p : Pod} (hc : c.Sound) (hs : s.Sound c)
    (hp : p.Sound c) (now : Instant) :
    (∃ d, ((evaluate c.cooldownMark p now).run Cluster.world s).outcome = .ok d) ↔
      ∀ o, s.cluster.resolve p = .ok (some o) → ¬ o.Escapes c := by
  have hl := World.Leads.run Cluster.world (evaluate c.cooldownMark p now) s
  have hj := judges_of_course (Plan.Course.run Cluster.world (evaluate c.cooldownMark p now) s)
  generalize (evaluate c.cooldownMark p now).run Cluster.world s = run at hl hj
  have sane := hs.sane (hj.orderly hp) hl
  cases ho : run.outcome with
  | ok d =>
      rw [ho] at hj
      obtain ⟨k, k', hk, knows, legible⟩ := hj.legible
      rw [hk] at sane hl
      obtain ⟨m, hkl, -⟩ := World.Leads.append_iff.mp hl
      refine iff_of_true ⟨d, rfl⟩ fun o hr => ?_
      have owner : d.owner = some o := (Cluster.resolve_of_knows Cluster.hosts knows hkl).mpr hr
      rw [owner] at knows
      have sound := (knows.resolves.of_sane fun e he => sane e (by simp [he])).1 o rfl
      exact (Cooldown.deadline_isOk_iff hc sound).mp (legible o owner)
  | error f =>
      rw [ho] at hj
      obtain ⟨o, knows, failed⟩ := hj.of_error sane
      have sound := (knows.resolves.of_sane sane).1 o rfl
      have hr : s.cluster.resolve p = .ok (some o) := (Cluster.resolve_of_knows Cluster.hosts knows hl).mp rfl
      refine iff_of_false (by simp) fun legible => legible o hr ?_
      exact ((Cooldown.deadline_eq_error_iff hc sound).mp failed).2

/-! ## The cycle -/

namespace Cycle

/-- What ends a cycle of a sound scene on a fault. Either the gate read an owner whose text escapes the
calendar; or a pod was evicted whose owner has a deadline that is in the last second of the calendar and
not over at twice the interval from now, so that there is no later one. -/
inductive BreaksOff (c : Config) : List (Exchange (Scene Cluster)) → Prop where
  | unreadable {l s id o} (ho : o.Escapes c) :
      BreaksOff c (l ++ [⟨s, .call (.readOwner id), .ok o⟩])
  | endless {l p o now d s} (hs : s.cluster.resolve p = .ok (some o))
      (hd : Cooldown.deadline c.cooldownMark o = .ok (some d))
      (last : d.floorSecond.nextSecond? = none)
      (early : ∀ t ∈ Cooldown.ahead? now c.recheckInterval, t.floorSecond ≤ d) (node s' s'') :
      BreaksOff c (l ++ [⟨s, .call (.evict p c.gracePeriod), .ok ()⟩,
        ⟨s', .record (.podEvicted p node), .ok ()⟩, ⟨s'', .clock, .ok now⟩])

variable {l : List (Exchange (Scene Cluster))} {s s' : Scene Cluster}

theorem BreaksOff.unsettled (h : BreaksOff c l) : ¬ Settled l := by
  cases h with
  | unreadable ho => simp [Query.settles]
  | endless hs hd last early node s' s'' => simp [Settled, Query.settles]

/-- In a cluster in memory the owner that the gate knew is still the owner of the pod when the eviction is
asked for. -/
theorem Breaks.off (h : Breaks c l) (hc : c.Sound) (sane : ∀ e ∈ l, e.Sane c)
    (hl : Cluster.world.Leads s l s') : BreaksOff c l := by
  cases h with
  | @unreadable l s id o f hd =>
      have sound : o.Sound c := sane _ (List.mem_append_right _ (List.mem_singleton_self _))
      exact .unreadable ((Cooldown.deadline_eq_error_iff hc sound).mp hd).2
  | @endless l k p o bs node now previous s₀ s₁ s₂ s₃ hk hd hn =>
      obtain ⟨m, -, hl⟩ := World.Leads.append_iff.mp hl
      obtain ⟨m', hkl, hl⟩ := World.Leads.append_iff.mp hl
      obtain ⟨rfl, m₁, hr, hl⟩ := World.Leads.cons_iff.mp hl
      obtain ⟨rfl, -⟩ := World.Leads.cons_iff.mp hl
      have resolved : m.cluster.resolve p = .ok (some o) := (Cluster.resolve_of_knows Cluster.hosts hk hkl).mp rfl
      have reads : ∀ e ∈ k, e.query.isRead = true := fun e he =>
        Query.isRead_of_isInspection (hk.resolves.inspects e he)
      have same : s₁.cluster = m.cluster :=
        (Cluster.hosts.of_reply_isRead rfl hr).trans (Cluster.hosts.cluster_of_reads reads hkl)
      obtain ⟨_, ⟨⟩, ahead⟩ : (Query.clock).Accepts c (.ok now) := sane ⟨s₃, .clock, .ok now⟩ (by simp)
      obtain ⟨d, rfl, last, early⟩ := (Cooldown.next?_eq_none_iff ahead).mp hn
      rw [← same] at resolved
      have off := BreaksOff.endless (l := l ++ (k ++ [⟨s₀, .call (.listBudgets p.ns), .ok bs⟩]))
        resolved hd last early node s₂ s₃
      simpa using off

/-- In a sound scene a text under the cooldown annotation is read as no cooldown if it denotes no instant,
and it ends what reads it on a fault if and only if it denotes an instant outside the calendar. A cycle
comes to a result unless it reads such a text for a pod or evicts a pod whose owner has no next deadline. -/
theorem annotations_contained (c : Config) (profiles : ProfileStore) (s : Scene Cluster)
    (hc : c.Sound) (hprofiles : profiles.Sound) (hs : s.Sound c) :
    (∀ text, (Timestamp.read text = .ok none ↔ Timestamp.denoted? text = none) ∧
      ∀ f, Timestamp.read text = .error f ↔ f = .beyondCalendar ∧ Timestamp.Escapes text) ∧
    (∀ o now, o.Sound c →
      ((∃ d, Cooldown.active c.cooldownMark o now = .ok d) ↔ ¬ o.Escapes c)) ∧
    (∀ p now, p.Sound c →
      ((∃ d, ((Admission.evaluate c.cooldownMark p now).run Cluster.world s).outcome = .ok d) ↔
        ∀ o, s.cluster.resolve p = .ok (some o) → ¬ o.Escapes c)) ∧
    ((∃ r, ((reconcile c profiles).run Cluster.world s).outcome = .ok r) ↔
      ¬ BreaksOff c ((reconcile c profiles).run Cluster.world s).exchanges) := by
  refine ⟨fun text => ⟨Timestamp.read_eq_none_iff, fun f => Timestamp.read_eq_error_iff⟩, ?_, ?_, ?_⟩
  · intro o now ho
    rw [← Cooldown.deadline_isOk_iff hc ho]
    simp [Cooldown.active]
  · intro p now hp
    exact Admission.evaluate_isOk_iff hc hs hp now
  · have hl := World.Leads.run Cluster.world (reconcile c profiles) s
    have conducts := conducts_reconcile hc hprofiles Cluster.world s
    have sane := hs.sane conducts.1 hl
    have ends := conducts.2 sane
    cases ho : ((reconcile c profiles).run Cluster.world s).outcome with
    | ok r =>
        rw [ho] at ends
        exact iff_of_true ⟨r, rfl⟩ fun off => off.unsettled ends
    | error f =>
        rw [ho] at ends
        exact iff_of_false (by simp) fun none => none (ends.off hc sane hl)

/-! ## An annotation that ends every cycle -/

namespace Sample

/-- The first instant of the calendar as shown in a zone that is a minute ahead of UTC. -/
def dawn : String := "0001-01-01T00:00:00+00:01"

def agedOwner : Owner := { owner with annotations := .ofPairs [(cooldownMarkName, .text dawn)] }

def agedScene : Scene Cluster := { scene with cluster := { cluster with owners := .ofList [agedOwner] } }

theorem escapes_dawn : Timestamp.Escapes dawn :=
  ⟨-62135596860000000, by decide +kernel, by decide⟩

theorem config_sound : config.Sound := ⟨by decide, by decide, by decide, by decide⟩

theorem profiles_sound : ProfileStore.Sound profiles := by
  intro p hp
  cases List.mem_singleton.mp hp
  rfl

theorem nodes_sound : ∀ n ∈ cluster.nodes.items, n.Sound := by
  intro n hn
  change n ∈ [node "node-a", node "node-b"] at hn
  have sound (name : String) (h : Document.isName name = true) : (node name).Sound := ⟨h, rfl⟩
  simp only [List.mem_cons, List.not_mem_nil, or_false] at hn
  rcases hn with rfl | rfl
  · exact sound _ (by decide)
  · exact sound _ (by decide)

theorem pods_sound : ∀ p ∈ cluster.pods.items, p.Sound config := by
  intro p hp
  change p ∈ [pod "web-1" "node-a", pod "web-2" "node-b"] at hp
  have sound (name node : String) (h : Document.isName name = true) :
      (pod name node).Sound config :=
    ⟨h, rfl, rfl, rfl, fun x hx => (by cases hx), by simp [pod, Document.isText, Document.text?]⟩
  simp only [List.mem_cons, List.not_mem_nil, or_false] at hp
  rcases hp with rfl | rfl
  · exact sound _ _ (by decide)
  · exact sound _ _ (by decide)

theorem owners_sound : ∀ o ∈ cluster.owners.items, o.Sound config := by
  intro o ho
  cases List.mem_singleton.mp ho
  exact ⟨by decide, rfl, rfl, fun r hr => (by cases hr), by decide⟩

theorem agedScene_sound : agedScene.Sound config where
  cluster := by
    refine ⟨nodes_sound, pods_sound, fun b hb => (by cases hb), ?_, fun pod f hf => (by cases hf)⟩
    intro o ho
    cases List.mem_singleton.mp ho
    refine ⟨by decide, rfl, rfl, fun r hr => (by cases hr), ?_⟩
    decide
  equipped := by
    refine ⟨trivial, ?_⟩
    simp only [Clock.Ticks]
    decide

end Sample

open Sample in
theorem annotations_contained_sample :
    agedScene.Sound config ∧ agedOwner.Escapes config ∧
      ¬ ∃ d, ((Admission.evaluate config.cooldownMark (pod "web-1" "node-a") .epoch).run
        Cluster.world agedScene).outcome = .ok d := by
  have escapes : agedOwner.Escapes config := ⟨dawn, by decide +kernel, escapes_dawn⟩
  have resolved : agedScene.cluster.resolve (pod "web-1" "node-a") = .ok (some agedOwner) := by
    decide +kernel
  have candidate : (pod "web-1" "node-a").Sound config :=
    agedScene_sound.cluster.pods _ (List.mem_cons_self ..)
  have gate := (annotations_contained config profiles agedScene config_sound profiles_sound
    agedScene_sound).2.2.1 (pod "web-1" "node-a") .epoch candidate
  refine ⟨agedScene_sound, escapes, ?_⟩
  rw [gate]
  exact fun legible => legible agedOwner resolved escapes

open Sample in
/-- The text can neither be read nor got over by a cycle. -/
theorem annotation_aborts :
    (¬ ∃ d, Timestamp.read dawn = .ok d) ∧ config.Sound ∧ ProfileStore.Sound profiles ∧
      agedScene.Sound config ∧
      ¬ ∃ r, ((reconcile config profiles).run Cluster.world agedScene).outcome = .ok r := by
  have unread : Timestamp.read dawn = .error .beyondCalendar :=
    Timestamp.read_eq_error_iff.mpr ⟨rfl, escapes_dawn⟩
  have aborted : (match ((reconcile config profiles).run Cluster.world agedScene).outcome with
      | .ok _ => false
      | .error _ => true) = true := by decide +kernel
  refine ⟨by simp [unread], config_sound, profiles_sound, agedScene_sound, ?_⟩
  rintro ⟨r, hr⟩
  rw [hr] at aborted
  cases aborted

end Cycle

end NodeRelief
