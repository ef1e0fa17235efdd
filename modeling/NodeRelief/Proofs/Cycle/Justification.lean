import NodeRelief.Proofs.Cluster
import NodeRelief.Proofs.Cycle.Opening

/-! # Why pods are evicted and owners annotated

In a cluster in memory, every request of a cycle to evict a pod or to annotate an owner has its reasons
in the state it is made in. The pods and nodes of a cycle are listed at its start, so the loops carry
along that those still to come are there. -/

namespace NodeRelief

/-! ## Readings of the clock -/

/-- The reading of the clock that an exchange answers. -/
def Exchange.reading? {σ : Type} : Exchange σ → Option Instant
  | ⟨_, .clock, .ok t⟩ => some t
  | _ => none

/-- The last reading of the clock. -/
def lastReading? {σ : Type} (l : List (Exchange σ)) : Option Instant :=
  (l.filterMap Exchange.reading?).getLast?

theorem Exchange.reading?_of_isInspection {σ : Type} {e : Exchange σ}
    (h : e.query.isInspection = true) : e.reading? = none := by
  obtain ⟨s, q, r⟩ := e
  cases q with
  | clock => cases h
  | _ => rfl

/-- Inspections do not read the clock. -/
theorem lastReading?_inspections {σ : Type} {s : σ} {now : Instant} {l k : List (Exchange σ)}
    (h : ∀ e ∈ k, e.query.isInspection = true) :
    lastReading? (l ++ ⟨s, .clock, .ok now⟩ :: k) = some now := by
  have silent : k.filterMap Exchange.reading? = [] :=
    List.filterMap_eq_nil_iff.mpr fun e he => Exchange.reading?_of_isInspection (h e he)
  simp [lastReading?, silent, Exchange.reading?]

/-! ## Reasons -/

namespace Cycle

/-- Why a pod may be evicted from a cluster at a time. -/
structure Justifies (c : Config) (profiles : ProfileStore) (cl : Cluster) (p : Pod) (now : Instant) :
    Prop where
  present : p ∈ cl.pods.items
  active : p.phase = .running ∨ p.phase = .pending
  degraded : ∃ n ∈ cl.nodes.items, p.node.equals n.name = true ∧
    n.annotations.hasKey c.degradedMark = true
  profiled : (p.profile? profiles c.workloadLabel).isSome = true ∨ c.evictsUnprofiled = true
  cooled : cl.Cooled c.cooldownMark p now
  unbudgeted : cl.Unbudgeted p

/-- Why an owner is annotated: a pod of it was just evicted, and the entries hold the deadline that is
next to the stored one at the time that was read since. -/
inductive Renews (c : Config) (cl : Cluster) (o : Owner) :
    List (Exchange (Scene Cluster)) → Holding → Prop where
  | mk {l s p n s' s'' now previous t} (hs : s.cluster.resolve p = .ok (some o))
      (ho : cl.owner? o.id = some o) (hd : Cooldown.deadline c.cooldownMark o = .ok previous)
      (hn : Cooldown.next? (.utc now) c.recheckInterval previous = some t) :
      Renews c cl o (l ++ [⟨s, .call (.evict p c.gracePeriod), .ok ()⟩,
        ⟨s', .record (.podEvicted p n), .ok ()⟩, ⟨s'', .clock, .ok now⟩])
        (Cooldown.entry c.cooldownMark t)

/-- A request for a change has its reasons in the state it is made in and in the exchanges before. -/
def Reasoned (c : Config) (profiles : ProfileStore) (h : List (Exchange (Scene Cluster)))
    (e : Exchange (Scene Cluster)) : Prop :=
  match e.query with
  | .call (.evict p _) => ∃ now, lastReading? h = some now ∧ Justifies c profiles e.before.cluster p now
  | .call (.annotateOwner o entries) => Renews c e.before.cluster o h entries
  | _ => True

/-! ## What is still to come -/

/-- The degraded nodes and the pods that the cycle still has before it are in the cluster. -/
structure Ready (nodes : List Node) (pods : List Pod) (cl : Cluster) : Prop where
  listed : ∀ n ∈ nodes, n ∈ cl.nodes.items
  waiting : ∀ p ∈ pods, p ∈ cl.pods.items
  distinct : (pods.map Pod.key).Nodup

namespace Ready

variable {nodes : List Node} {p : Pod} {pods pods' : List Pod} {cl : Cluster}

theorem sublist (h : Ready nodes pods cl) (hp : pods'.Sublist pods) : Ready nodes pods' cl :=
  ⟨h.listed, fun q hq => h.waiting q (hp.subset hq), h.distinct.sublist (hp.map Pod.key)⟩

theorem tail (h : Ready nodes (p :: pods) cl) : Ready nodes pods cl :=
  h.sublist (List.sublist_cons_self p pods)

theorem perm (h : Ready nodes pods cl) (hp : pods.Perm pods') : Ready nodes pods' cl :=
  ⟨h.listed, fun q hq => h.waiting q (hp.mem_iff.mpr hq), (hp.map Pod.key).nodup_iff.mp h.distinct⟩

/-- An eviction takes away the pod that it is about and no other. -/
theorem evict (h : Ready nodes (p :: pods) cl) : Ready nodes pods (cl.evict p).2 := by
  obtain ⟨listed, waiting, distinct⟩ := h
  obtain ⟨hp, distinct⟩ := List.nodup_cons.mp distinct
  refine ⟨?_, ?_, distinct⟩
  · rwa [Cluster.evict_nodes]
  · intro q hq
    refine Cluster.mem_evict_pods (waiting q (by simp [hq])) ?_
    intro same
    exact hp (same ▸ List.mem_map_of_mem hq)

theorem patchOwner (h : Ready nodes pods cl) (o : Owner) (entries : Holding) :
    Ready nodes pods (cl.patchOwner o entries).2 := by
  refine ⟨?_, ?_, h.distinct⟩
  · rw [Cluster.patchOwner_nodes]
    exact h.listed
  · rw [Cluster.patchOwner_pods]
    exact h.waiting

end Ready

/-! ## One visit -/

section Visit

variable {c : Config} {profiles : ProfileStore} {nodes : List Node} {n : Node} {p : Pod}
  {pods : List Pod} {l k : List (Exchange (Scene Cluster))} {s s' : Scene Cluster}

theorem reasoned_reads (h : ∀ e ∈ k, e.query.isRead = true) : Throughout (Reasoned c profiles) l k := by
  refine .of_forall fun e he h' => ?_
  have read := h e he
  obtain ⟨s, q, r⟩ := e
  unfold Reasoned
  split
  · next hq => simp only at hq; subst hq; cases read
  · next hq => simp only at hq; subst hq; cases read
  · trivial

/-- What follows an eviction annotates the owner of the evicted pod, if anything. -/
theorem reasoned_coolsDown {owner : Option Owner} {u : Except Fault Unit} {s₀ s₁ : Scene Cluster}
    (h : CoolsDown c owner k u) (hl : Cluster.world.Leads s k s')
    (howner : ∀ o, owner = some o ↔ s₀.cluster.resolve p = .ok (some o))
    (same : s.cluster.owners = s₀.cluster.owners) (ready : Ready nodes pods s.cluster) :
    Throughout (Reasoned c profiles) (l ++ [⟨s₀, .call (.evict p c.gracePeriod), .ok ()⟩,
      ⟨s₁, .record (.podEvicted p n.name), .ok ()⟩]) k ∧ Ready nodes pods s'.cluster := by
  cases h with
  | unowned =>
      rw [← hl]
      exact ⟨.nil, ready⟩
  | timeless s₂ f =>
      have reads : ∀ e ∈ [(⟨s₂, .clock, .error f⟩ : Exchange (Scene Cluster))],
          e.query.isRead = true := by simp [Query.isRead]
      refine ⟨reasoned_reads reads, ?_⟩
      rwa [Cluster.hosts.cluster_of_reads reads hl]
  | @recorded o now k v hk s₂ u hu =>
      obtain ⟨rfl, s₃, hr, hl⟩ := World.Leads.cons_iff.mp hl
      have unread : s₃.cluster = s₂.cluster := Cluster.hosts.of_reply_isRead rfl hr
      rcases hk.asks with rfl | ⟨previous, t, s₄, a, k, hd, hn, rfl, reads⟩
      · rw [← hl, unread]
        exact ⟨⟨trivial, .nil⟩, ready⟩
      obtain ⟨rfl, s₅, hr, hl⟩ := World.Leads.cons_iff.mp hl
      have patched : s₅.cluster = (s₄.cluster.patchOwner o (Cooldown.entry c.cooldownMark t)).2 :=
        (congrArg Prod.snd (Cluster.hosts.answer_of_reply hr)).symm
      refine ⟨⟨trivial, ?_, reasoned_reads reads⟩, ?_⟩
      · have hs := (howner o).mp rfl
        have ho : s₄.cluster.owner? o.id = some o := by
          have stored := Cluster.owner?_resolve hs
          simp only [Cluster.owner?] at stored ⊢
          rwa [unread, same]
        change Renews _ _ _ _ _
        rw [List.append_assoc]
        exact .mk hs ho hd hn
      · rw [Cluster.hosts.cluster_of_reads reads hl, patched]
        exact (unread ▸ ready).patchOwner _ _

/-- A visit makes no unreasoned request, and what is to come after it is still there. -/
theorem reasoned_visit {v : Except Fault Verdict} (hv : Visits c profiles n p k v)
    (hl : Cluster.world.Leads s k s') (ready : Ready nodes (p :: pods) s.cluster) (hn : n ∈ nodes)
    (degraded : isDegraded c n = true) (located : p.node.equals n.name = true)
    (active : p.isActive = true) :
    Throughout (Reasoned c profiles) l k ∧ Ready nodes pods s'.cluster := by
  have passes (reads : ∀ e ∈ k, e.query.isRead = true) :
      Throughout (Reasoned c profiles) l k ∧ Ready nodes pods s'.cluster := by
    refine ⟨reasoned_reads reads, ?_⟩
    rw [Cluster.hosts.cluster_of_reads reads hl]
    exact ready.tail
  have inspects {now d k} (hj : Admission.Judges c.cooldownMark p now k d)
      (e : Exchange (Scene Cluster)) (he : e ∈ k) : e.query.isRead = true :=
    Query.isRead_of_isInspection (hj.inspects e he)
  cases hv with
  | cancelled s₀ => exact passes (by simp [Query.isRead])
  | ineligible he s₀ => exact passes (by simp [Query.isRead])
  | timeless he s₀ s₁ f => exact passes (by simp [Query.isRead])
  | unjudged he hj s₀ s₁ => exact passes (by simpa [Query.isRead] using inspects hj)
  | rejected he hj hd s₀ s₁ => exact passes (by simpa [Query.isRead] using inspects hj)
  | @admitted now k₁ k₂ d v he hj hd ha s₀ s₁ =>
      obtain ⟨rfl, s₂, hr, hl⟩ := World.Leads.cons_iff.mp hl
      have same₂ : s₂.cluster = s₀.cluster := Cluster.hosts.of_reply_isRead rfl hr
      obtain ⟨rfl, s₃, hr, hl⟩ := World.Leads.cons_iff.mp hl
      have same₃ : s₃.cluster = s₁.cluster := Cluster.hosts.of_reply_isRead rfl hr
      obtain ⟨s₄, hl₁, hl₂⟩ := World.Leads.append_iff.mp hl
      have same₄ : s₄.cluster = s₃.cluster := Cluster.hosts.cluster_of_reads (inspects hj) hl₁
      have same : s₄.cluster = s₀.cluster := same₄.trans (same₃.trans same₂)
      obtain ⟨howner, cooled, unbudgeted⟩ := Cluster.of_admitted Cluster.hosts hj hd hl₁
      rw [← same₄] at howner cooled unbudgeted
      have justified : Justifies c profiles s₄.cluster p now := by
        refine ⟨?_, ?_, ⟨n, ?_, located, degraded⟩, ?_, cooled, unbudgeted⟩
        · exact same ▸ ready.waiting p (by simp)
        · simpa [Pod.isActive] using active
        · exact same ▸ ready.listed n hn
        · simpa [isEligible] using he
      have reads : Throughout (Reasoned c profiles) l
          (⟨s₀, .cancelled, false⟩ :: ⟨s₁, .clock, .ok now⟩ :: k₁) :=
        reasoned_reads (by simpa [Query.isRead] using inspects hj)
      have last : lastReading? (l ++ ⟨s₀, .cancelled, false⟩ :: ⟨s₁, .clock, .ok now⟩ :: k₁) = some now := by
        rw [List.append_cons]
        exact lastReading?_inspections hj.inspects
      suffices Throughout (Reasoned c profiles)
          (l ++ ⟨s₀, .cancelled, false⟩ :: ⟨s₁, .clock, .ok now⟩ :: k₁) k₂ ∧
          Ready nodes pods s'.cluster by
        refine ⟨?_, this.2⟩
        exact Throughout.append_iff.mpr ⟨reads, this.1⟩
      generalize l ++ ⟨s₀, .cancelled, false⟩ :: ⟨s₁, .clock, .ok now⟩ :: k₁ = h at last ⊢
      rw [← same] at ready
      rcases ha.asks with ⟨s₅, a, k, rfl, reads⟩ | ⟨s₅, s₆, k, u, rfl, hc⟩
      · obtain ⟨rfl, s₆, hr, hl₂⟩ := World.Leads.cons_iff.mp hl₂
        have evicted : s₆.cluster = (s₅.cluster.evict p).2 :=
          (congrArg Prod.snd (Cluster.hosts.answer_of_reply hr)).symm
        refine ⟨⟨⟨now, last, justified⟩, reasoned_reads reads⟩, ?_⟩
        rw [Cluster.hosts.cluster_of_reads reads hl₂, evicted]
        exact ready.evict
      · obtain ⟨rfl, s₇, hr, hl₂⟩ := World.Leads.cons_iff.mp hl₂
        have evicted : s₇.cluster = (s₅.cluster.evict p).2 :=
          (congrArg Prod.snd (Cluster.hosts.answer_of_reply hr)).symm
        obtain ⟨rfl, s₈, hr, hl₂⟩ := World.Leads.cons_iff.mp hl₂
        have recorded : s₈.cluster = s₆.cluster := Cluster.hosts.of_reply_isRead rfl hr
        have owners : s₈.cluster.owners = s₅.cluster.owners := by
          rw [recorded, evicted, Cluster.evict_owners]
        have after : Ready nodes pods s₈.cluster := recorded ▸ evicted ▸ ready.evict
        obtain ⟨renews, ready⟩ := reasoned_coolsDown hc hl₂ howner owners after
        exact ⟨⟨⟨now, last, justified⟩, trivial, by simpa using renews⟩, ready⟩

end Visit

/-! ## The whole cycle -/

section Loops

variable {c : Config} {profiles : ProfileStore} {nodes : List Node} {pods : List Pod}
  {h l : List (Exchange (Scene Cluster))} {s : Scene Cluster}

theorem reasoned_walk {n : Node} {ranked later : List Pod} (hn : n ∈ nodes)
    (degraded : isDegraded c n = true) (hranked : ∀ p ∈ ranked, p ∈ candidates n pods)
    (reasoned : Throughout (Reasoned c profiles) h l)
    (ready : Ready nodes (ranked ++ later) s.cluster) :
    (walk c profiles n [] ranked).Ensures Cluster.world l s fun _ l' s' =>
      Throughout (Reasoned c profiles) h l' ∧ Ready nodes later s'.cluster := by
  refine walk_ensures (I := fun _ ranked l s => (∀ p ∈ ranked, p ∈ candidates n pods) ∧
    Throughout (Reasoned c profiles) h l ∧ Ready nodes (ranked ++ later) s.cluster) ?_ ?_
    ⟨hranked, reasoned, ready⟩
  · rintro taken ranked l s ⟨-, reasoned, ready⟩ -
    exact ⟨reasoned, ready.sublist (List.sublist_append_right ranked later)⟩
  · rintro taken p rest l s ⟨hranked, reasoned, ready⟩ -
    apply Plan.Ensures.of_course
    intro k v s' hk hl
    have candidate := hranked p (by simp)
    simp only [candidates, List.mem_filter, Bool.and_eq_true] at candidate
    obtain ⟨hpast, hready⟩ := reasoned_visit (l := h ++ l) (visits_of_course hk) hl ready hn degraded
      candidate.2.1 candidate.2.2
    have past := Throughout.append_iff.mpr ⟨reasoned, hpast⟩
    have done := hready.sublist (List.sublist_append_right rest later)
    have remaining : ∀ q ∈ rest, q ∈ candidates n pods := fun q hq => hranked q (by simp [hq])
    match v with
    | .ok .passed => exact ⟨remaining, past, hready⟩
    | .ok .evicted => exact ⟨fun _ => ⟨past, done⟩, fun _ => ⟨remaining, past, hready⟩⟩
    | .ok .rateLimited => exact ⟨past, done⟩
    | .ok .cancelled => exact ⟨past, done⟩
    | .error f => exact ⟨past, done⟩

theorem reasoned_relieve {ns : List Node} (hns : ∀ n ∈ ns, n ∈ nodes)
    (degraded : ∀ n ∈ nodes, isDegraded c n = true) (reasoned : Throughout (Reasoned c profiles) h l)
    (ready : Ready nodes (ns.flatMap (candidates · pods)) s.cluster) {evicted : List String} :
    (relieve c profiles pods evicted ns).Ensures Cluster.world l s fun _ l' _ =>
      Throughout (Reasoned c profiles) h l' := by
  refine relieve_ensures (J := fun _ ns l s => (∀ n ∈ ns, n ∈ nodes) ∧
    Throughout (Reasoned c profiles) h l ∧ Ready nodes (ns.flatMap (candidates · pods)) s.cluster)
    ?_ ?_ ?_ ⟨hns, reasoned, ready⟩
  · rintro evicted l s ⟨-, reasoned, -⟩
    exact reasoned
  · rintro evicted n rest l s f ⟨-, reasoned, -⟩ -
    exact reasoned
  · rintro evicted n rest l s ranked ⟨hns, reasoned, ready⟩ hranked
    have perm := perm_of_rank hranked
    have hn := hns n (by simp)
    rw [List.flatMap_cons] at ready
    refine (reasoned_walk hn (degraded n hn) (fun p hp => perm.mem_iff.mp hp) reasoned
      (ready.perm (perm.symm.append_right _))).mono ?_
    rintro o l' s' ⟨past, hready⟩
    have goesOn := And.intro (fun m hm => hns m (List.mem_cons_of_mem n hm)) (And.intro past hready)
    match o with
    | .ok ⟨taken, .rateLimited⟩ => exact past
    | .ok ⟨taken, .cancelled⟩ => exact past
    | .ok ⟨taken, .finished⟩ => exact ⟨fun _ _ => past, fun _ => goesOn⟩
    | .error f => exact past

/-- Pods on different nodes are different. -/
theorem nodup_candidates {ns : List Node} (hns : (ns.map Node.identity).Nodup)
    (hpods : (pods.map Pod.key).Nodup) : ((ns.flatMap (candidates · pods)).map Pod.key).Nodup := by
  rw [List.map_flatMap, List.nodup_flatMap]
  refine ⟨fun n _ => hpods.sublist (List.filter_sublist.map _), ?_⟩
  refine (List.pairwise_map.mp hns).imp ?_
  intro m n distinct key hm hn
  obtain ⟨p, hp, rfl⟩ := List.mem_map.mp hm
  obtain ⟨q, hq, same⟩ := List.mem_map.mp hn
  simp only [candidates, List.mem_filter, Document.equals, Bool.and_eq_true,
    Document.agrees_iff] at hp hq
  obtain rfl := List.inj_on_of_nodup_map hpods hq.1 hp.1 same
  exact distinct (hp.2.1.1.symm.trans hq.2.1.1)

theorem ready_of_listed {cl : Cluster} {ns : List Node} (hns : ns.Sublist cl.nodes.items) :
    Ready ns (ns.flatMap (candidates · cl.pods.items)) cl := by
  refine ⟨fun n hn => hns.subset hn, ?_, nodup_candidates ?_ cl.pods.nodup⟩
  · intro p hp
    obtain ⟨n, -, hp⟩ := List.mem_flatMap.mp hp
    exact (List.mem_filter.mp hp).1
  · exact cl.nodes.nodup.sublist (hns.map _)

/-- Whatever went before, a cycle makes no unreasoned request. -/
theorem reasoned_reconcile (c : Config) (profiles : ProfileStore)
    (h : List (Exchange (Scene Cluster))) (s : Scene Cluster) :
    Throughout (Reasoned c profiles) h ((reconcile c profiles).run Cluster.world s).exchanges := by
  suffices (reconcile c profiles).Ensures Cluster.world [] s fun _ l _ =>
      Throughout (Reasoned c profiles) h l by simpa [Plan.Ensures] using this
  apply reconcile_ensures
  intro k o s' hk hl
  have past : Throughout (Reasoned c profiles) h ([] ++ k) := reasoned_reads hk.reads
  have same := Cluster.hosts.cluster_of_reads hk.reads hl
  cases o with
  | error f => exact past
  | ok opened =>
      rcases opened with r | ⟨ds, pods⟩
      · exact past
      · obtain ⟨s₀, s₁, nodes, hd, hnodes, hpods⟩ := hk.of_opened
        have hnodes := Cluster.of_listNodes (Cluster.hosts.answer_of_mem_reads hk.reads hl hnodes)
        have hpods := Cluster.of_listPods (Cluster.hosts.answer_of_mem_reads hk.reads hl hpods)
        obtain ⟨-, rfl⟩ := Fault.ifKey_eq_ok_iff.mp hd
        rw [← same] at hnodes hpods
        subst hnodes hpods
        refine reasoned_relieve (fun n hn => hn) (fun n hn => (List.mem_filter.mp hn).2) past ?_
        exact ready_of_listed List.filter_sublist

/-- Every request of a cycle to evict a pod is justified in the state it is made in, by the last
reading of the clock before it. -/
theorem eviction_justified (c : Config) (profiles : ProfileStore) (s : Scene Cluster)
    {before after : List (Exchange (Scene Cluster))} {e : Exchange (Scene Cluster)} {p : Pod}
    {gracePeriod : Document}
    (split : ((reconcile c profiles).run Cluster.world s).exchanges = before ++ e :: after)
    (asked : e.query = .call (.evict p gracePeriod)) :
    ∃ now, lastReading? before = some now ∧ Justifies c profiles e.before.cluster p now := by
  have reasoned : Throughout (Reasoned c profiles) [] (before ++ e :: after) :=
    split ▸ reasoned_reconcile c profiles [] s
  have reasons := reasoned.of_append_cons
  simp only [Reasoned] at reasons
  rw [asked] at reasons
  exact reasons

end Loops

/-! ## A run -/

namespace Sample

def owner : Owner := ⟨.deployment, "web", "shop", .empty, [], .null, .null⟩

/-- A pod of the owner that runs on a node. -/
def pod (name node : String) : Pod :=
  ⟨name, "shop", node, .running, [], .empty, [⟨"Deployment", "web", .bool true, "apps/v1", .null⟩], .null⟩

def node (name : String) : Node := ⟨name, .ofPairs [(degradedMarkName, "true")], .empty, .null⟩

/-- Two degraded nodes with a pod each, both of one owner. -/
def cluster : Cluster where
  nodes := .ofList [node "node-a", node "node-b"]
  pods := .ofList [pod "web-1" "node-a", pod "web-2" "node-b"]
  budgets := []
  owners := .ofList [owner]
  failures := fun _ => none

def config : Config := ⟨{ evictUnprofiled := .bool true }, by decide, by decide⟩

def profiles : ProfileStore := .ofList [⟨"batch", .int 1, .null, .null, .null⟩]

/-- The cluster at noon; the clock is read twice for an eviction and shows four minutes more then. -/
def scene : Scene Cluster :=
  ⟨cluster, .memory [], .ofList [1714564800000000, 1714564800000000, 1714565040000000], none⟩

/-- A list parted at a place where something of that kind stands. -/
theorem parted_at {α : Type} {l : List α} {P : α → Prop} [DecidablePred P] (i : Nat)
    (h : l[i]?.any (P ·) = true) : ∃ x, P x ∧ l = l.take i ++ x :: l.drop (i + 1) := by
  obtain ⟨x, hx, kind⟩ := (Option.any_eq_true ..).mp h
  obtain ⟨hi, rfl⟩ := List.getElem?_eq_some_iff.mp hx
  refine ⟨l[i], of_decide_eq_true kind, ?_⟩
  rw [← List.drop_eq_getElem_cons hi, List.take_append_drop]

end Sample

open Sample in
theorem eviction_justified_sample :
    ∃ before e after g, ((reconcile config profiles).run Cluster.world scene).exchanges =
        before ++ e :: after ∧
      e.query = .call (.evict (pod "web-1" "node-a") g) ∧
      ∃ now, lastReading? before = some now ∧
        Justifies config profiles e.before.cluster (pod "web-1" "node-a") now := by
  have asked : ∃ e ∈ ((reconcile config profiles).run Cluster.world scene).exchanges,
      e.query.evictee? = some (pod "web-1" "node-a") := by
    have some : ((reconcile config profiles).run Cluster.world scene).exchanges.any
        (·.query.evictee? = some (pod "web-1" "node-a")) = true := by decide +kernel
    simpa only [List.any_eq_true, decide_eq_true_eq] using some
  obtain ⟨e, he, hp⟩ := asked
  obtain ⟨g, hq⟩ := Query.evictee?_eq_some_iff.mp hp
  obtain ⟨before, after, split⟩ := List.append_of_mem he
  exact ⟨before, e, after, g, split, hq, eviction_justified config profiles scene split hq⟩

end Cycle

end NodeRelief
