import NodeRelief.Cluster.State
import NodeRelief.Proofs.Cycle.Course
import NodeRelief.Proofs.Register

/-! # Calls to a cluster in memory

Only patches and evictions change a cluster: a patch one annotation of one owner, an eviction the pods.
Everything else is read, so what a plan reads can be told from the cluster alone. -/

namespace NodeRelief

/-! ## Worlds with a cluster in them -/

/-- The world has a cluster in its states: calls are answered by it, and it changes with no other query. -/
structure World.Hosts {σ : Type} (w : World σ) (view : σ → Cluster) : Prop where
  call : ∀ c s, Cluster.answer c (view s) = ((w.reply (.call c) s).1, view (w.reply (.call c) s).2)
  other : ∀ q s, q.isCall = false → view (w.reply q s).2 = view s

namespace World.Hosts

variable {σ : Type} {w : World σ} {view : σ → Cluster} {l : List (Exchange σ)} {s s' : σ}

theorem answer_of_reply (hosts : w.Hosts view) {c : Call} {r : Except Fault c.Value}
    (h : w.reply (.call c) s = (r, s')) : Cluster.answer c (view s) = (r, view s') := by
  rw [hosts.call, h]

/-- What is only read leaves the cluster as it is. -/
theorem reply_of_isRead (hosts : w.Hosts view) {q : Query} (h : q.isRead = true) (s : σ) :
    view (w.reply q s).2 = view s := by
  cases q with
  | call c =>
      have answered := congrArg Prod.snd (hosts.call c s)
      cases c <;> first | exact answered.symm | simp [Query.isRead] at h
  | _ => exact hosts.other _ s rfl

theorem of_reply_isRead (hosts : w.Hosts view) {q : Query} {r : q.Reply} (h : q.isRead = true)
    (hr : w.reply q s = (r, s')) : view s' = view s := by
  rw [← hosts.reply_of_isRead h s, hr]

/-- Nothing that is only read changes along the way. -/
theorem cluster_of_reads (hosts : w.Hosts view) (h : ∀ e ∈ l, e.query.isRead = true)
    (hl : w.Leads s l s') : view s' = view s := by
  induction l generalizing s with
  | nil => rw [hl]
  | cons e l ih =>
      obtain ⟨he, hl⟩ := hl
      rw [ih (fun e he => h e (by simp [he])) hl]
      exact hosts.reply_of_isRead (h e (by simp)) s

/-- Among reads, every call is answered by the cluster as it was at first. -/
theorem answer_of_mem_reads (hosts : w.Hosts view) {s₀ : σ} {c : Call} {r : Except Fault c.Value}
    (h : ∀ e ∈ l, e.query.isRead = true) (hl : w.Leads s l s') (he : ⟨s₀, .call c, r⟩ ∈ l) :
    (Cluster.answer c (view s)).1 = r := by
  obtain ⟨k, k', rfl⟩ := List.append_of_mem he
  obtain ⟨m, hk, hm⟩ := World.Leads.append_iff.mp hl
  obtain ⟨rfl, s₁, hr, -⟩ := World.Leads.cons_iff.mp hm
  rw [← hosts.cluster_of_reads (fun e he => h e (List.mem_append_left _ he)) hk]
  exact congrArg Prod.fst (hosts.answer_of_reply hr)

end World.Hosts

namespace Cluster

/-- The world of a cluster in memory. -/
theorem hosts : world.Hosts Scene.cluster :=
  ⟨fun _ _ => rfl, fun q _ h => match q with
    | .call _ => nomatch h
    | .record _ | .clock | .cancelled => rfl⟩

/-! ## Calls -/

theorem of_listNodes {c : Cluster} {nodes : List Node} (h : c.listNodes = .ok nodes) :
    nodes = c.nodes.items := by
  obtain ⟨failure, -, h⟩ := Fault.bind_eq_ok_iff.mp h
  split at h <;> simp_all

theorem of_listPods {c : Cluster} {pods : List Pod} (h : c.listPods = .ok pods) :
    pods = c.pods.items := by
  obtain ⟨failure, -, h⟩ := Fault.bind_eq_ok_iff.mp h
  split at h <;> simp_all

theorem of_listBudgets {c : Cluster} {ns : Document} {bs : List Budget} (h : c.listBudgets ns = .ok bs) :
    bs = c.budgets.filter (·.ns.equals ns) := by
  obtain ⟨failure, -, h⟩ := Fault.bind_eq_ok_iff.mp h
  split at h <;> simp_all

/-- An owner that is read is the one stored under the identity asked for. -/
theorem owner?_of_readOwner {c : Cluster} {id : OwnerId} {o : Owner} (h : c.readOwner id = .ok o) :
    c.owner? id = some o := by
  obtain ⟨failure, -, h⟩ := Fault.bind_eq_ok_iff.mp h
  split at h <;> simp_all

/-- An owner that is read is stored under its own identity. -/
theorem owner?_readOwner {c : Cluster} {id : OwnerId} {o : Owner} (h : c.readOwner id = .ok o) :
    c.owner? o.id = some o := by
  have hid := owner?_of_readOwner h
  have hkey := (Register.mem_of_find? hid).2
  simp only [owner?] at hid ⊢
  rwa [← hkey] at hid

theorem evict_owners (c : Cluster) (p : Pod) : (c.evict p).2.owners = c.owners := by
  simp only [evict]
  split <;> rfl

theorem evict_nodes (c : Cluster) (p : Pod) : (c.evict p).2.nodes = c.nodes := by
  simp only [evict]
  split <;> rfl

theorem mem_evict_pods {c : Cluster} {p q : Pod} (h : q ∈ c.pods.items) (hne : q.key ≠ p.key) :
    q ∈ (c.evict p).2.pods.items := by
  simp only [evict]
  split
  · exact h
  · exact Register.mem_remove.mpr ⟨h, hne⟩

theorem patchOwner_nodes (c : Cluster) (o : Owner) (entries : Holding) :
    (c.patchOwner o entries).2.nodes = c.nodes := by
  simp only [patchOwner]
  split <;> rfl

theorem patchOwner_pods (c : Cluster) (o : Owner) (entries : Holding) :
    (c.patchOwner o entries).2.pods = c.pods := by
  simp only [patchOwner]
  split <;> rfl

end Cluster

/-! ## Budgets

Labels cannot be held against a selector that names what cannot be a key; there is no other fault. -/

theorem Requirement.meets_eq_error {r : Requirement} {labels : Labels} {f : Fault}
    (h : r.meets labels = .error f) : f = .wrongKind := by
  have listed (h : r.lists labels = .error f) : f = .wrongKind := by
    rw [lists, Fault.map_eq_error_iff] at h
    exact (Fault.ifKey_eq_error_iff.mp h).2
  rw [meets, Fault.bind_eq_error_iff] at h
  rcases h with unusable | ⟨there, -, h⟩
  · exact (Fault.ifKey_eq_error_iff.mp unusable).2
  · split at h
    · exact listed h
    · exact listed (Fault.map_eq_error_iff.mp h)
    all_goals cases h

theorem Selector.meets_eq_error {s : Selector} {labels : Labels} {f : Fault}
    (h : s.meets labels = .error f) : f = .wrongKind := by
  rw [meets, Fault.bind_eq_error_iff] at h
  rcases h with unpaired | ⟨all, -, h⟩
  · obtain ⟨pair, -, failed⟩ := Fault.of_allM_eq_error unpaired
    rw [hasPair, Fault.map_eq_error_iff] at failed
    exact (Fault.ifKey_eq_error_iff.mp failed).2
  · cases all with
    | true =>
        obtain ⟨r, -, failed⟩ := Fault.of_allM_eq_error h
        exact Requirement.meets_eq_error failed
    | false => cases h

theorem Admission.forbids_eq_error {b : Budget} {labels : Labels} {f : Fault}
    (h : forbids b labels = .error f) : f = .wrongKind := by
  rw [forbids] at h
  cases hs : selects b.selector labels with
  | ok selected =>
      rw [hs] at h
      cases h
  | error e =>
      rw [hs] at h
      simp only [selects] at hs
      split at hs
      · cases hs
      · split at hs
        · next flaw _ =>
          cases hs
          cases h
        · obtain rfl := Selector.meets_eq_error hs
          cases h
          rfl

theorem Admission.violated?_eq_error {p : Pod} {bs : List Budget} {f : Fault}
    (h : violated? p bs = .error f) : f = .wrongKind := by
  induction bs with
  | nil => cases h
  | cons b bs ih =>
      rw [violated?] at h
      cases hf : forbids b p.labels with
      | ok forbidden =>
          rw [hf] at h
          cases forbidden with
          | true => cases h
          | false => exact ih h
      | error e =>
          rw [hf] at h
          cases h
          exact forbids_eq_error hf

/-! A pod that no budget is in the way of. -/

theorem Admission.of_violated?_eq_none {p : Pod} {bs : List Budget} (h : violated? p bs = .ok none) :
    ∀ b ∈ bs, selects b.selector p.labels = .ok true → b.allowed.agrees (.int 0) = false := by
  induction bs with
  | nil => simp
  | cons b bs ih =>
      intro b' hb' hs
      rw [violated?] at h
      cases hf : forbids b p.labels with
      | error f => simp [hf] at h
      | ok forbidden =>
        cases forbidden with
        | true => simp [hf] at h
        | false =>
          rcases List.mem_cons.mp hb' with rfl | hb'
          · simpa [forbids, hs] using hf
          · exact ih (by simpa [hf] using h) b' hb' hs

/-! ## Owners of pods -/

namespace Cluster

variable {σ : Type} {w : World σ} {view : σ → Cluster} {l : List (Exchange σ)} {s s' : σ}

/-- The owner that a pod resolves to in a cluster. -/
def resolve (c : Cluster) (p : Pod) : Except Fault (Option Owner) :=
  match Ownership.reference? p with
  | none => .ok none
  | some (kind, name) =>
    match c.readOwner ⟨kind, p.ns, name⟩ with
    | .error f => .error f
    | .ok owner =>
      match Ownership.successor? kind owner with
      | some parent => (c.readOwner ⟨.deployment, p.ns, parent⟩).map some
      | none => .ok (some owner)

/-- What the reads tell is what the cluster holds. -/
theorem of_resolves (hosts : w.Hosts view) {p : Pod} {r : Except Fault (Option Owner)}
    (h : Ownership.Resolves p l r) (hl : w.Leads s l s') : r = (view s).resolve p := by
  have read {s₀ id r} (he : ⟨s₀, .call (.readOwner id), r⟩ ∈ l) : (view s).readOwner id = r := by
    refine hosts.answer_of_mem_reads (fun e he => ?_) hl he
    exact Query.isRead_of_isInspection (h.inspects e he)
  cases h with
  | unmanaged h => simp only [resolve, h]
  | unread h s₀ f => simp only [resolve, h, read (List.mem_singleton_self _)]
  | direct h hs s₀ => simp only [resolve, h, read (List.mem_singleton_self _), hs]
  | through h hs s₀ s₁ r =>
      have first := read (List.mem_cons_self ..)
      have second := read (List.mem_cons_of_mem _ (List.mem_singleton_self _))
      simp only [resolve, h, first, hs, second]

theorem owner?_resolve {c : Cluster} {p : Pod} {o : Owner} (h : c.resolve p = .ok (some o)) :
    c.owner? o.id = some o := by
  simp only [resolve] at h
  split at h
  · cases h
  · split at h
    · cases h
    · next owner hr =>
      split at h
      · simp only [Fault.map_eq_ok_iff, Option.some.injEq, exists_eq_right] at h
        exact owner?_readOwner h
      · simp only [Except.ok.injEq, Option.some.injEq] at h
        exact owner?_readOwner (h ▸ hr)

/-! ## The gate -/

/-- The cooldown of the pod's owner is over, or there is none. -/
def Cooled (c : Cluster) (mark : Document) (p : Pod) (now : Instant) : Prop :=
  ∀ o, c.resolve p = .ok (some o) → ∃ d, Cooldown.deadline mark o = .ok d ∧ ∀ t ∈ d, t ≤ now

/-- The budgets of the pod's namespace can be listed, and none that selects the pod is used up. -/
def Unbudgeted (c : Cluster) (p : Pod) : Prop :=
  ∃ bs, c.listBudgets p.ns = .ok bs ∧
    ∀ b ∈ bs, selects b.selector p.labels = .ok true → b.allowed.agrees (.int 0) = false

/-- The owner that the gate knows is the one that the pod resolves to. -/
theorem resolve_of_knows (hosts : w.Hosts view) {p : Pod} {owner : Option Owner}
    (h : Admission.Knows p l owner) (hl : w.Leads s l s') {o : Owner} :
    owner = some o ↔ (view s).resolve p = .ok (some o) := by
  obtain ⟨r, hr, ho⟩ := h
  rw [← of_resolves hosts hr hl]
  simp only [Admission.known] at ho
  split at ho
  · cases ho
    simp
  · rw [ho]
    simp

/-- A pod that the gate admits has no cooldown and no budget in its way. -/
theorem of_admitted (hosts : w.Hosts view) {mark : Document} {p : Pod} {now : Instant} {d : Decision}
    (h : Admission.Judges mark p now l (.ok d)) (hd : d.admitted = true) (hl : w.Leads s l s') :
    (∀ o, d.owner = some o ↔ (view s).resolve p = .ok (some o)) ∧
      (view s).Cooled mark p now ∧ (view s).Unbudgeted p := by
  obtain ⟨k, s₀, bs, rfl, hk, hc, hv⟩ := h.of_admitted hd
  obtain ⟨m, hkl, -⟩ := World.Leads.append_iff.mp hl
  have howner (o : Owner) := resolve_of_knows hosts hk hkl (o := o)
  refine ⟨howner, ?_, bs, ?_, Admission.of_violated?_eq_none hv⟩
  · intro o ho
    rw [(howner o).mpr ho] at hc
    refine Cooldown.active_eq_none_iff.mp ?_
    simpa [Admission.cooldownOf] using hc
  · refine hosts.answer_of_mem_reads (fun e he => ?_) hl (List.mem_append_right k (List.mem_singleton_self _))
    exact Query.isRead_of_isInspection (h.inspects e he)

end Cluster

end NodeRelief
