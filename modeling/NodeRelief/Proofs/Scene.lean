import NodeRelief.Proofs.Cluster
import NodeRelief.Proofs.Cycle.Order

/-! # Scenes that answer sanely

A scene is equipped for a cycle if its recorder takes every sound event and its clock stays in the
calendar. A cluster in memory that holds sound objects answers sound calls sanely, and it still holds
sound objects afterwards. -/

namespace NodeRelief

variable {κ : Type} {c : Config}

/-! ## Recorder and clock -/

/-- The clock never shows a time from which twice the recheck interval leaves the calendar. -/
def Clock.Ticks (c : Config) (clock : Clock) : Prop :=
  ∀ us ∈ clock.current :: clock.later, ∃ now, Instant.ofMicros? us = some now ∧
    (Cooldown.ahead? now c.recheckInterval).isSome = true

theorem Clock.Ticks.advance {clock : Clock} (h : clock.Ticks c) : clock.advance.Ticks c := by
  obtain ⟨current, later⟩ := clock
  cases later with
  | nil => exact h
  | cons us rest => exact fun us' hus => h us' (List.mem_cons_of_mem _ hus)

structure Scene.Equipped (c : Config) (s : Scene κ) : Prop where
  recorder : s.recorder.Mild
  clock : s.clock.Ticks c

/-- Everything but a call is answered sanely. -/
theorem Scene.Equipped.reply {backend : Backend κ} {s : Scene κ} {q : Query} (h : s.Equipped c)
    (hq : q.Sound c)
    (called : ∀ call, q = .call call → call.Accepts c (backend call s.cluster).1) :
    q.Accepts c ((world backend).reply q s).1 ∧ ((world backend).reply q s).2.Equipped c := by
  cases q with
  | call call => exact ⟨called call rfl, h.recorder, h.clock⟩
  | record e =>
      obtain ⟨r, recorded, mild⟩ := Recorder.record_mild hq s.recorder h.recorder
      change (s.recorder.record e).1 = .ok () ∧
        Scene.Equipped c { s with recorder := (s.recorder.record e).2 }
      rw [recorded]
      exact ⟨rfl, mild, h.clock⟩
  | clock =>
      obtain ⟨now, hnow, ahead⟩ := h.clock s.clock.current (by simp)
      exact ⟨⟨now, Fault.orOutOfRange_eq_ok_iff.mpr hnow, ahead⟩, h.recorder, h.clock.advance⟩
  | cancelled => exact ⟨trivial, h⟩

/-! ## A cluster in memory -/

/-- An owner stays sound when a deadline is written to it. -/
theorem Owner.Sound.annotate {o : Owner} (h : o.Sound c) (t : Instant) :
    (o.annotate (Cooldown.entry c.cooldownMark t)).Sound c := by
  refine ⟨h.name, h.ns, h.uid, h.owners, ?_⟩
  simp [Owner.annotate, Cooldown.merge_entry, Document.isText_iff]

theorem OwnerId.isKey_of_isText {id : OwnerId} (hns : id.ns.isText = true)
    (hname : id.name.isText = true) : id.isKey = true :=
  Bool.and_eq_true_iff.mpr ⟨Document.isKey_of_isText hns, Document.isKey_of_isText hname⟩

namespace Cluster

/-- A cluster of sound objects whose evictions fail, if at all, as evictions do. -/
structure Sound (c : Config) (cl : Cluster) : Prop where
  nodes : ∀ n ∈ cl.nodes.items, n.Sound
  pods : ∀ p ∈ cl.pods.items, p.Sound c
  budgets : ∀ b ∈ cl.budgets, b.Sound
  owners : ∀ o ∈ cl.owners.items, o.Sound c
  evictions : ∀ pod, ∀ f ∈ cl.failures (.eviction pod), Eviction.outcome? (.error f) ≠ none

variable {cl : Cluster}

theorem failure?_of_isKey (point : FailurePoint) (h : point.isKey = true) :
    cl.failure? point = .ok (cl.failures point.canonical) :=
  Fault.ifKey_eq_ok_iff.mpr ⟨h, rfl⟩

theorem listNodes_accepts (h : cl.Sound c) : (Call.listNodes).Accepts c cl.listNodes := by
  rw [listNodes, failure?_of_isKey .nodes rfl]
  simp only [bind, Except.bind]
  split
  · exact ⟨_, rfl⟩
  · exact h.nodes

theorem listPods_accepts (h : cl.Sound c) : (Call.listPods).Accepts c cl.listPods := by
  rw [listPods, failure?_of_isKey .pods rfl]
  simp only [bind, Except.bind]
  split
  · exact ⟨_, rfl⟩
  · exact h.pods

theorem listBudgets_accepts (h : cl.Sound c) {ns : Document} (hns : ns.isText = true) :
    (Call.listBudgets ns).Accepts c (cl.listBudgets ns) := by
  rw [listBudgets, failure?_of_isKey (.budgets ns) (Document.isKey_of_isText hns)]
  simp only [bind, Except.bind]
  split
  · exact ⟨_, rfl⟩
  · exact fun b hb => h.budgets b (List.mem_of_mem_filter hb)

theorem readOwner_accepts (h : cl.Sound c) {id : OwnerId} (hns : id.ns.isText = true)
    (hname : id.name.isText = true) : (Call.readOwner id).Accepts c (cl.readOwner id) := by
  rw [readOwner, failure?_of_isKey (.reading id) (OwnerId.isKey_of_isText hns hname)]
  simp only [bind, Except.bind]
  split
  · exact ⟨_, rfl⟩
  · exact ⟨_, rfl⟩
  · next ho => exact h.owners _ (Register.mem_of_find? ho).1

theorem patchOwner_sound (h : cl.Sound c) {o : Owner} (ho : o.Sound c) (t : Instant) :
    (Call.annotateOwner o (Cooldown.entry c.cooldownMark t)).Accepts c
        (cl.patchOwner o (Cooldown.entry c.cooldownMark t)).1 ∧
      Sound c (cl.patchOwner o (Cooldown.entry c.cooldownMark t)).2 := by
  have target : (∃ message, cl.patchTarget o = .error (.ownerPatch message)) ∨
      ∃ stored, cl.patchTarget o = .ok stored ∧ stored.Sound c := by
    rw [patchTarget, failure?_of_isKey (.patching o.id)
      (OwnerId.isKey_of_isText ho.ns (Document.isText_of_isName ho.name))]
    simp only [bind, Except.bind]
    split
    · exact .inl ⟨_, rfl⟩
    · exact .inl ⟨_, rfl⟩
    · next hs => exact .inr ⟨_, rfl, h.owners _ (Register.mem_of_find? hs).1⟩
  simp only [patchOwner]
  rcases target with ⟨message, refused⟩ | ⟨stored, found, sound⟩
  · rw [refused]
    refine ⟨?_, h⟩
    rintro _ ⟨⟩
    exact ⟨message, rfl⟩
  · rw [found]
    refine ⟨by rintro _ ⟨⟩, h.nodes, h.pods, h.budgets, ?_, h.evictions⟩
    intro x hx
    rcases Register.mem_of_mem_put hx with rfl | hx
    · exact sound.annotate t
    · exact h.owners x hx

theorem evict_sound (h : cl.Sound c) (p : Pod) (gracePeriod : Document) :
    (Call.evict p gracePeriod).Accepts c (cl.evict p).1 ∧ Sound c (cl.evict p).2 := by
  simp only [evict]
  split
  · next f hf => exact ⟨h.evictions _ f hf, h⟩
  · refine ⟨by simp [Call.Accepts, Eviction.outcome?], h.nodes, ?_, h.budgets, h.owners, h.evictions⟩
    exact fun q hq => h.pods q (Register.mem_remove.mp hq).1

/-- A sound call is answered sanely, and the cluster stays sound. -/
theorem answer_sound (h : cl.Sound c) {call : Call} (hcall : call.Sound c) :
    call.Accepts c (answer call cl).1 ∧ Sound c (answer call cl).2 := by
  cases call with
  | listNodes => exact ⟨listNodes_accepts h, h⟩
  | listPods => exact ⟨listPods_accepts h, h⟩
  | listBudgets ns => exact ⟨listBudgets_accepts h hcall, h⟩
  | readOwner id => exact ⟨readOwner_accepts h hcall.1 hcall.2, h⟩
  | annotateOwner o entries =>
      obtain ⟨ho, t, rfl⟩ := hcall
      exact patchOwner_sound h ho t
  | evict p gracePeriod => exact evict_sound h p gracePeriod

end Cluster

/-- A scene in which every cycle is answered sanely. -/
structure Scene.Sound (c : Config) (s : Scene Cluster) : Prop where
  cluster : s.cluster.Sound c
  equipped : s.Equipped c

theorem Scene.Sound.reply {s : Scene Cluster} {q : Query} (h : s.Sound c) (hq : q.Sound c) :
    q.Accepts c (Cluster.world.reply q s).1 ∧ (Cluster.world.reply q s).2.Sound c := by
  have called (call : Call) (hcall : q = .call call) :
      call.Accepts c (Cluster.answer call s.cluster).1 ∧
        Cluster.Sound c (Cluster.answer call s.cluster).2 :=
    Cluster.answer_sound h.cluster (by rw [hcall] at hq; exact hq)
  obtain ⟨accepts, equipped⟩ := h.equipped.reply hq fun call hcall => (called call hcall).1
  refine ⟨accepts, ?_, equipped⟩
  cases q with
  | call call => exact (called call rfl).2
  | _ => exact h.cluster

/-- What is asked in good order is answered sanely and leaves a sound scene. -/
theorem Scene.Sound.answered {s s' : Scene Cluster} {l : List (Exchange (Scene Cluster))}
    (h : s.Sound c) (ordered : Cycle.Orderly c l) (hl : Cluster.world.Leads s l s') :
    (∀ e ∈ l, e.Sane c) ∧ s'.Sound c :=
  ordered.answered hl h fun _ _ _ hs hq => hs.reply hq

end NodeRelief
