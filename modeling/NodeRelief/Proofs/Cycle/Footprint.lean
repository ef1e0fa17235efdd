import NodeRelief.Proofs.Cycle.Drain
import NodeRelief.Proofs.Cycle.Trail

/-! # What a cycle leaves as it was

A cycle that comes to a result has taken the pods that it names out of the cluster, and may have written
deadlines to their owners. Everything else is as it was before. -/

namespace NodeRelief

open List (Forall₂)

variable {σ : Type}

/-! ## Lists and registers -/

theorem forall₂_trans {α : Type} {R : α → α → Prop} (trans : ∀ a b c, R a b → R b c → R a c)
    {l l' l'' : List α} (h : Forall₂ R l l') (h' : Forall₂ R l' l'') : Forall₂ R l l'' := by
  induction h generalizing l'' with
  | nil =>
      cases h'
      exact .nil
  | cons hab _ ih =>
      cases h' with
      | cons hbc rest => exact .cons (trans _ _ _ hab hbc) (ih rest)

namespace Register

variable {κ α : Type} {key : α → κ} [DecidableEq κ]

/-- An item that is put in place of another changes no other item. -/
theorem forall₂_putItem {R : α → α → Prop} (same : ∀ a, R a a) {l : List α} {a b : α}
    (ha : l.find? (key · = key b) = some a) (hab : R a b) : Forall₂ R l (putItem key b l) := by
  induction l with
  | nil => cases ha
  | cons x rest ih =>
      by_cases h : key x = key b
      · obtain rfl : x = a := by simpa [h] using ha
        rw [putItem, if_pos h]
        exact .cons hab (List.forall₂_same.mpr fun y _ => same y)
      · rw [putItem, if_neg h]
        exact .cons (same x) (ih (by simpa [h] using ha))

end Register

/-- Setting a key changes nothing under other keys. -/
theorem Mapping.filter_set (m : Mapping) (k v : Document) :
    (m.set k v).items.filter (·.1.canonical ≠ k.canonical) =
      m.items.filter (·.1.canonical ≠ k.canonical) := by
  have others : (m.set k v).items.filter (·.1.canonical ≠ (m.spelling k).canonical) =
      m.items.filter (·.1.canonical ≠ (m.spelling k).canonical) :=
    Register.filter_putItem (m.spelling k, v) m.items
  rwa [canonical_spelling] at others

/-- A patch that is refused changes nothing. -/
theorem Cluster.patchOwner_of_error {cl cl' : Cluster} {o : Owner} {entries : Mapping} {f : Fault}
    (h : cl.patchOwner o entries = (.error f, cl')) : cl' = cl := by
  rcases cl.patchOwner_cases o entries with ⟨f', refused⟩ | ⟨stored, -, written⟩
  · exact (congrArg Prod.snd (refused.symm.trans h)).symm
  · cases written.symm.trans h

/-! ## Changes -/

/-- Whether an exchange changed the cluster: an eviction or a patch that was accepted. -/
def Exchange.isChange : Exchange σ → Bool
  | ⟨_, .call (.evict _ _), .ok ()⟩ | ⟨_, .call (.annotateOwner _ _), .ok ()⟩ => true
  | _ => false

/-- What is written to an owner, if the exchange is a patch, is a deadline. -/
def Exchange.Dates (c : Config) (e : Exchange σ) : Prop :=
  ∀ o entries, e.query = .call (.annotateOwner o entries) →
    ∃ t, entries = .mapping (Cooldown.entry c.cooldownMark t)

namespace Cycle

/-- Among the exchanges a pod of the owner was evicted, and a deadline was then written to the owner. -/
def Cooling (c : Config) (view : σ → Cluster) (l : List (Exchange σ)) (id : OwnerId) : Prop :=
  ∃ s p s₁ node s₂ now s₃ o t,
    [⟨s, .call (.evict p c.gracePeriod), .ok ()⟩, ⟨s₁, .record (.podEvicted p node), .ok ()⟩,
      ⟨s₂, .clock, .ok now⟩,
      ⟨s₃, .call (.annotateOwner o (Cooldown.entry c.cooldownMark t)), .ok ()⟩] <:+: l ∧
    (view s).resolve p = .ok (some o) ∧ o.identity = id

/-- How an owner may differ after exchanges: in the annotation of its deadline, if that was written. -/
structure Spared (c : Config) (view : σ → Cluster) (l : List (Exchange σ)) (o o' : Owner) : Prop where
  fields : o' = { o with annotations := o'.annotations }
  annotations : o'.annotations.items.filter (·.1.canonical ≠ c.cooldownMark.canonical) =
    o.annotations.items.filter (·.1.canonical ≠ c.cooldownMark.canonical)
  cause : o' = o ∨ Cooling c view l o.identity

/-- How a cluster may differ after exchanges in which the pods of these keys were evicted. -/
structure Footprint (c : Config) (view : σ → Cluster) (keys : List String) (l : List (Exchange σ))
    (cl cl' : Cluster) : Prop where
  nodes : cl'.nodes = cl.nodes
  budgets : cl'.budgets = cl.budgets
  failures : cl'.failures = cl.failures
  pods : cl'.pods.items = cl.pods.items.filter (·.key ∉ keys)
  /-- The owners are the same ones, in the same order. -/
  owners : Forall₂ (Spared c view l) cl.owners.items cl'.owners.items

section Changes

variable {c : Config} {view : σ → Cluster} {l l' : List (Exchange σ)} {keys keys' : List String}
  {cl cl' cl'' : Cluster} {p : Pod} {o o' o'' : Owner}

theorem Cooling.mono {id : OwnerId} (h : Cooling c view l id) (hl : l <:+: l') : Cooling c view l' id := by
  obtain ⟨s, p, s₁, node, s₂, now, s₃, o, t, among, resolved⟩ := h
  exact ⟨s, p, s₁, node, s₂, now, s₃, o, t, among.trans hl, resolved⟩

namespace Spared

theorem refl (l : List (Exchange σ)) (o : Owner) : Spared c view l o o := ⟨rfl, rfl, .inl rfl⟩

theorem mono (h : Spared c view l o o') (hl : l <:+: l') : Spared c view l' o o' :=
  ⟨h.fields, h.annotations, h.cause.imp_right fun cooling => cooling.mono hl⟩

theorem trans (h : Spared c view l o o') (h' : Spared c view l o' o'') : Spared c view l o o'' := by
  have same : o'.identity = o.identity := by
    rw [h.fields]
    rfl
  refine ⟨?_, h'.annotations.trans h.annotations, ?_⟩
  · have fields := h'.fields
    rwa [h.fields] at fields
  · rcases h'.cause with rfl | cooling
    · exact h.cause
    · exact .inr (same ▸ cooling)

end Spared

namespace Footprint

theorem of_eq (same : cl' = cl) : Footprint c view [] l cl cl' := by
  subst same
  exact ⟨rfl, rfl, rfl, by simp, List.forall₂_same.mpr fun o _ => .refl l o⟩

theorem mono (h : Footprint c view keys l cl cl') (hl : l <:+: l') : Footprint c view keys l' cl cl' :=
  ⟨h.nodes, h.budgets, h.failures, h.pods, h.owners.imp fun _ _ spared => spared.mono hl⟩

theorem trans (h : Footprint c view keys l cl cl') (h' : Footprint c view keys' l cl' cl'') :
    Footprint c view (keys ++ keys') l cl cl'' := by
  refine ⟨h'.nodes.trans h.nodes, h'.budgets.trans h.budgets, h'.failures.trans h.failures, ?_, ?_⟩
  · rw [h'.pods, h.pods, List.filter_filter]
    exact List.filter_congr fun p _ => by simp [Bool.and_comm]
  · exact forall₂_trans (fun _ _ _ h h' => h.trans h') h.owners h'.owners

/-- What follows evicts no other pod. -/
theorem then_none (h : Footprint c view keys l cl cl') (h' : Footprint c view [] l cl' cl'') :
    Footprint c view keys l cl cl'' := by
  simpa using h.trans h'

theorem evict (accepted : cl.evict p = (.ok (), cl')) : Footprint c view [p.key] l cl cl' := by
  have frame := cl.evict_frame p
  have nodes := cl.evict_nodes p
  have owners := cl.evict_owners p
  rw [accepted] at frame nodes owners
  refine ⟨nodes, frame.1, frame.2, ?_, ?_⟩
  · simp only [Cluster.evict] at accepted
    split at accepted
    · cases accepted
    · cases accepted
      simp [Register.remove]
  · rw [show cl'.owners = cl.owners from owners]
    exact List.forall₂_same.mpr fun o _ => .refl l o

/-- A deadline that is written changes one owner only. -/
theorem patch {t : Instant} (accepted : cl.patchOwner o (Cooldown.entry c.cooldownMark t) = (.ok (), cl'))
    (cooling : Cooling c view l o.identity) : Footprint c view [] l cl cl' := by
  rcases cl.patchOwner_cases o (Cooldown.entry c.cooldownMark t) with
    ⟨f, refused⟩ | ⟨stored, hstored, written⟩
  · cases refused.symm.trans accepted
  obtain rfl := congrArg Prod.snd (written.symm.trans accepted)
  have own : stored.identity = o.identity := (Register.mem_of_find? hstored).2
  refine ⟨rfl, rfl, rfl, by simp [Cluster.putOwner], ?_⟩
  refine Register.forall₂_putItem (.refl l) (a := stored) ?_ ⟨rfl, ?_, .inr (own ▸ cooling)⟩
  · change cl.owners.find? stored.identity = some stored
    rw [own]
    exact hstored
  · exact Mapping.filter_set ..

end Footprint

end Changes

/-! ## Visits -/

section Visits

variable {c : Config} {profiles : ProfileStore} {w : World σ} {view : σ → Cluster} {n : Node} {p : Pod}
  {now : Instant} {owner : Option Owner} {l k : List (Exchange σ)} {v : Verdict} {es : List Event} {s s' : σ}

/-- A request that is not granted changes nothing, and neither does what is only read after it. -/
theorem footprint_of_refused (hosts : w.Hosts view) {s₀ : σ} {g : Document} {f : Fault}
    (hk : ∀ e ∈ k, e.query.isRead = true)
    (leads : w.Leads s (⟨s₀, .call (.evict p g), .error f⟩ :: k) s') :
    Footprint c view [] l (view s) (view s') := by
  obtain ⟨rfl, s₁, he, leads⟩ := World.Leads.cons_iff.mp leads
  have answered : (view s₀).evict p = (.error f, view s₁) := hosts.answer_of_reply he
  refine .of_eq ?_
  rw [hosts.cluster_of_reads hk leads, ← evict_of_error (congrArg Prod.fst answered), answered]

theorem footprint_of_evicted (hosts : w.Hosts view) {s₀ : σ} {g : Document}
    (hk : ∀ e ∈ k, e.query.isRead = true)
    (leads : w.Leads s (⟨s₀, .call (.evict p g), .ok ()⟩ :: k) s') :
    Footprint c view [p.key] l (view s) (view s') := by
  obtain ⟨rfl, s₁, he, leads⟩ := World.Leads.cons_iff.mp leads
  rw [hosts.cluster_of_reads hk leads]
  exact .evict (hosts.answer_of_reply he)

theorem Sequel.footprint (hosts : w.Hosts view) (hl : Sequel c n p owner l v es) (leads : w.Leads s l s')
    (resolved : ∀ o, owner = some o → (view s).resolve p = .ok (some o)) :
    Footprint c view (accepted l) l (view s) (view s') := by
  cases hl with
  | limited s₀ message s₁ => exact footprint_of_refused hosts (by simp [Query.isRead]) leads
  | @failed owner a message ha s₀ s₁ =>
      cases a with
      | ok u => cases ha
      | error f => exact footprint_of_refused hosts (by simp [Query.isRead]) leads
  | unowned s₀ s₁ => exact footprint_of_evicted hosts (by simp [Query.isRead]) leads
  | @cooled o t s₀ s₁ s₂ now s₃ s₄ =>
      rw [← List.take_append_drop 3 (_ :: _)] at leads
      obtain ⟨m, first, second⟩ := World.Leads.append_iff.mp leads
      obtain ⟨rfl, s₅, written, second⟩ := World.Leads.cons_iff.mp second
      refine (footprint_of_evicted hosts (by simp [Query.isRead]) first).then_none ?_
      rw [hosts.cluster_of_reads (by simp [Query.isRead]) second]
      refine .patch (hosts.answer_of_reply written) ?_
      refine ⟨s₀, p, s₁, n.name, s₂, now, s₃, o, t, ⟨[], [_], rfl⟩, ?_, rfl⟩
      obtain ⟨rfl, -⟩ := World.Leads.cons_iff.mp first
      exact resolved o rfl
  | @uncooled o t message s₀ s₁ s₂ now s₃ s₄ =>
      rw [← List.take_append_drop 3 (_ :: _)] at leads
      obtain ⟨m, first, second⟩ := World.Leads.append_iff.mp leads
      obtain ⟨rfl, s₅, refused, second⟩ := World.Leads.cons_iff.mp second
      have answered := hosts.answer_of_reply refused
      refine (footprint_of_evicted hosts (by simp [Query.isRead]) first).then_none (.of_eq ?_)
      rw [hosts.cluster_of_reads (by simp [Query.isRead]) second]
      exact Cluster.patchOwner_of_error answered

theorem Tells.footprint (hosts : w.Hosts view) (hl : Tells c n p now owner l v es) (leads : w.Leads s l s')
    (resolved : ∀ o, owner = some o → (view s).resolve p = .ok (some o)) :
    Footprint c view (accepted l) l (view s) (view s') := by
  cases hl with
  | cooling hc s₀ => exact .of_eq (hosts.cluster_of_reads (by simp [Query.isRead]) leads)
  | forbidden hc hv s₀ s₁ => exact .of_eq (hosts.cluster_of_reads (by simp [Query.isRead]) leads)
  | unchecked hc s₀ message s₁ => exact .of_eq (hosts.cluster_of_reads (by simp [Query.isRead]) leads)
  | requested hc bs hv s₀ hl =>
      obtain ⟨rfl, s₁, listed, leads⟩ := World.Leads.cons_iff.mp leads
      have same : view s₁ = view s₀ := hosts.of_reply_isRead rfl listed
      rw [← same] at resolved ⊢
      exact (hl.footprint hosts leads resolved).mono (List.suffix_cons ..).isInfix

theorem Heard.footprint (hosts : w.Hosts view) {v : Visited σ} (hv : Heard c v es)
    (leads : w.Leads s v.exchanges s') :
    Footprint c view (accepted v.exchanges) v.exchanges (view s) (view s') := by
  cases hv with
  | unheard s₀ stop hv =>
      rw [hv] at leads ⊢
      exact .of_eq (hosts.cluster_of_reads (by simp [Query.isRead]) leads)
  | @heard now k l owner verdict es s₀ s₁ hv hk hl ending =>
      have opened : ∀ e ∈ ([⟨s₀, .cancelled, false⟩, ⟨s₁, .clock, .ok now⟩] : List (Exchange σ)),
          e.query.isRead = true := by simp [Query.isRead]
      have known : ∀ e ∈ k, e.query.isRead = true := by
        intro e he
        obtain ⟨id, hq⟩ := hk.reads e he
        rw [hq]
        rfl
      have split : v.exchanges = [⟨s₀, .cancelled, false⟩, ⟨s₁, .clock, .ok now⟩] ++ (k ++ l) := hv
      have kept : accepted v.exchanges = accepted l := by
        rw [split, accepted_append, accepted_append, accepted, accepted, evictions_of_reads opened,
          evictions_of_reads known]
        rfl
      rw [split] at leads
      obtain ⟨m, before, leads⟩ := World.Leads.append_iff.mp leads
      obtain ⟨m', reads, leads⟩ := World.Leads.append_iff.mp leads
      have resolved := fun o => (Cluster.resolve_of_knows hosts hk reads (o := o)).mp
      have same := hosts.cluster_of_reads known reads
      rw [← same] at resolved
      rw [kept, ← hosts.cluster_of_reads opened before, ← same, split]
      refine (hl.footprint hosts leads resolved).mono ?_
      exact (List.suffix_append k l).isInfix.trans (List.suffix_append _ _).isInfix

/-- Visits in a row leave their footprints one after the other. -/
theorem footprint_of_heard (hosts : w.Hosts view) {vs : List (Visited σ)}
    (heard : ∀ v ∈ vs, ∃ es, Heard c v es) (leads : w.Leads s (exchangesOf vs) s') :
    Footprint c view (accepted (exchangesOf vs)) (exchangesOf vs) (view s) (view s') := by
  induction vs generalizing s with
  | nil => exact .of_eq (congrArg view (show s = s' from leads)).symm
  | cons v vs ih =>
      rw [← List.singleton_append, exchangesOf_append, exchangesOf_singleton] at leads ⊢
      obtain ⟨m, first, rest⟩ := World.Leads.append_iff.mp leads
      obtain ⟨es, hes⟩ := heard v (by simp)
      rw [accepted_append]
      exact ((hes.footprint hosts first).mono (List.prefix_append ..).isInfix).trans
        ((ih (fun x hx => heard x (by simp [hx])) rest).mono (List.suffix_append ..).isInfix)

end Visits

/-! ## The whole cycle -/

section Run

variable {c : Config} {profiles : ProfileStore} {w : World σ} {view : σ → Cluster} {s : σ}

theorem footprint_of_chronicle (hosts : w.Hosts view) {l : List (Exchange σ)} {r : CycleResult} {s' : σ}
    (h : Chronicle c profiles l (.ok r)) (leads : w.Leads s l s') :
    Footprint c view (accepted l) l (view s) (view s') := by
  have opened {k : List (Exchange σ)} {o} (hk : Opens c profiles k o) : accepted k = [] := by
    rw [accepted, evictions_of_reads hk.reads]
    rfl
  cases h with
  | closed hk =>
      rw [opened hk]
      exact .of_eq (hosts.cluster_of_reads hk.reads leads)
  | visited hk hvs ho =>
      obtain ⟨m, first, rest⟩ := World.Leads.append_iff.mp leads
      have heard := fun v hv => (hvs.made v hv).heard (ho.returned hvs v hv)
      rw [accepted_append, opened hk, List.nil_append, ← hosts.cluster_of_reads hk.reads first]
      exact (footprint_of_heard hosts heard rest).mono (List.suffix_append ..).isInfix

/-- Only pods of the cluster are evicted. -/
theorem accepted_present (hosts : w.Hosts view) (c : Config) (profiles : ProfileStore) (s : σ) :
    ∀ key ∈ accepted ((reconcile c profiles).run w s).exchanges,
      ∃ p ∈ (view s).pods.items, p.key = key := by
  intro key hkey
  rw [accepted_eq_map] at hkey
  obtain ⟨p, hp, rfl⟩ := List.mem_map.mp hkey
  obtain ⟨x, hx, hxp⟩ := List.mem_filterMap.mp hp
  rcases shares_of_hosts hosts c profiles s with none | ⟨ds, done, -, -, shares⟩
  · simp [none] at hx
  · obtain ⟨n, -, candidate⟩ :=
      List.mem_flatMap.mp (shares.subperm.subset (List.mem_map_of_mem hx))
    obtain ⟨q, a⟩ := x
    cases a with
    | error f => cases hxp
    | ok u =>
        cases hxp
        exact ⟨p, List.mem_of_mem_filter candidate, rfl⟩

theorem dates_of_isRead {e : Exchange σ} (reads : e.query.isRead = true) : e.Dates c := by
  intro o entries hq
  rw [hq] at reads
  cases reads

/-- Only deadlines are written to owners. -/
theorem Visits.dates {n : Node} {p : Pod} {l : List (Exchange σ)} {v : Except Fault Verdict}
    (h : Visits c profiles n p l v) : ∀ e ∈ l, e.Dates c := by
  rcases h.reads_or_attempts with ⟨reads, -⟩ | ⟨k, s, bs, owner, l', rfl, reads, -, ha⟩
  · exact fun e he => dates_of_isRead (reads e he)
  have attempt : ∀ e ∈ l', e.Dates c := by
    rcases ha.asks with ⟨s₀, a, l', rfl, reads⟩ | ⟨s₀, s₁, l', u, rfl, hu⟩
    · simpa [Exchange.Dates] using fun e he => dates_of_isRead (c := c) (reads e he)
    · cases hu with
      | unowned => simp [Exchange.Dates]
      | timeless s f => simp [Exchange.Dates]
      | recorded hl s hu =>
          rcases hl.asks with rfl | ⟨previous, t, s₂, a, l', -, -, rfl, reads⟩
          · simp [Exchange.Dates]
          · simpa [Exchange.Dates] using fun e he => dates_of_isRead (c := c) (reads e he)
  have before := fun e he => dates_of_isRead (c := c) (reads e he)
  simpa [Exchange.Dates, or_imp, forall_and] using ⟨before, attempt⟩

/-- What is refused changes nothing, and neither does what is only read. -/
theorem unchanged_of_isChange (hosts : w.Hosts view) (c : Config) (profiles : ProfileStore) (s : σ) :
    ∀ e ∈ ((reconcile c profiles).run w s).exchanges, e.isChange = false →
      view (w.reply e.query e.before).2 = view e.before := by
  have dates : Throughout (fun _ e => e.Dates c) [] ((reconcile c profiles).run w s).exchanges := by
    refine (chronicle_reconcile c profiles w s).throughout ?_ ?_
    · exact fun k o hk => .of_forall fun e he _ => dates_of_isRead (hk.reads e he)
    · exact fun v hv h => .of_forall fun e he _ => hv.dates e he
  intro e he unchanged
  have answered := (World.Leads.run w (reconcile c profiles) s).reply_eq he
  obtain ⟨k, k', hk⟩ := List.append_of_mem he
  rw [hk] at dates
  have dated : e.Dates c := dates.of_append_cons
  obtain ⟨s₀, q, r⟩ := e
  cases q with
  | call call =>
      have changed := hosts.call call s₀
      cases call with
      | evict p g =>
        cases r with
        | ok u => cases unchanged
        | error f =>
          rw [← answered] at changed
          exact (congrArg Prod.snd changed).symm.trans (evict_of_error (congrArg Prod.fst changed))
      | annotateOwner o entries =>
        obtain ⟨t, rfl⟩ := dated o entries rfl
        cases r with
        | ok u => cases unchanged
        | error f =>
          rw [← answered] at changed
          exact Cluster.patchOwner_of_error changed
      | _ => exact hosts.reply_of_isRead rfl s₀
  | _ => exact hosts.other _ s₀ rfl

/-- A cycle that comes to a result leaves no more traces in the cluster than the pods that it names and the
deadlines of their owners, and nothing but accepted evictions and patches leaves any. -/
theorem cycle_footprint {w : World σ} {view : σ → Cluster} (hosts : w.Hosts view) (c : Config)
    (profiles : ProfileStore) (s : σ) {r : CycleResult}
    (returned : ((reconcile c profiles).run w s).outcome = .ok r) :
    Footprint c view r.evicted ((reconcile c profiles).run w s).exchanges (view s)
        (view ((reconcile c profiles).run w s).state) ∧
      (∀ key ∈ r.evicted, ∃ p ∈ (view s).pods.items, p.key = key) ∧
      ∀ e ∈ ((reconcile c profiles).run w s).exchanges, e.isChange = false →
        view (w.reply e.query e.before).2 = view e.before := by
  have closes := closes_reconcile c profiles w s
  have chronicle := chronicle_reconcile c profiles w s
  rw [returned] at closes chronicle
  rw [show r.evicted = _ from closes.1.evicted]
  refine ⟨?_, accepted_present hosts c profiles s, unchanged_of_isChange hosts c profiles s⟩
  exact footprint_of_chronicle hosts chronicle (.run ..)

end Run

open Sample in
/-- Of two pods the first is evicted, and its owner gets a deadline. -/
theorem cycle_footprint_sample :
    ∃ r, ((reconcile config Sample.profiles).run Cluster.world scene).outcome = .ok r ∧
      r.evicted = ["shop/web-1"] ∧
      Footprint config Scene.cluster r.evicted
        ((reconcile config Sample.profiles).run Cluster.world scene).exchanges scene.cluster
        ((reconcile config Sample.profiles).run Cluster.world scene).state.cluster := by
  have returned : ((reconcile config Sample.profiles).run Cluster.world scene).outcome =
      .ok ⟨standardDelay, ["shop/web-1"], false, false, none⟩ := by decide +kernel
  exact ⟨_, returned, rfl, (cycle_footprint Cluster.hosts config Sample.profiles scene returned).1⟩

end Cycle

end NodeRelief
