import NodeRelief.Proofs.Cycle.Selection
import NodeRelief.Proofs.Ranking
import Mathlib.Data.List.Chain

/-! # The order in which cycles drain nodes

Where nothing is in the way of an eviction, every cycle that is to evict a single pod takes the next one.
The ranking of the pods that remain is the old one without the pod that was taken, and the cooldown of its
owner is over by the next cycle. -/

namespace NodeRelief

/-! ## What an eviction leaves as it was -/

namespace Cluster

variable {c : Config} {now : Instant} {cl cl' : Cluster} {p : Pod}

theorem evict_frame (cl : Cluster) (p : Pod) :
    (cl.evict p).2.budgets = cl.budgets ∧ (cl.evict p).2.failures = cl.failures := by
  simp only [evict]
  split <;> exact ⟨rfl, rfl⟩

theorem patchOwner_frame (cl : Cluster) (o : Owner) (entries : Holding) :
    (cl.patchOwner o entries).2.budgets = cl.budgets ∧
      (cl.patchOwner o entries).2.failures = cl.failures := by
  simp only [patchOwner]
  split <;> exact ⟨rfl, rfl⟩

/-- An eviction leaves the nodes, the budgets and the failures as they were. -/
theorem Evicted.frame (h : cl.Evicted c now p cl') :
    cl'.nodes = cl.nodes ∧ cl'.budgets = cl.budgets ∧ cl'.failures = cl.failures := by
  have evicted := evict_frame cl p
  cases h with
  | unowned h => exact ⟨evict_nodes cl p, evicted⟩
  | @owned o previous t h hd hn =>
      have patched := patchOwner_frame (cl.evict p).2 o (Cooldown.entry c.cooldownMark t)
      exact ⟨(patchOwner_nodes _ _ _).trans (evict_nodes cl p), patched.1.trans evicted.1,
        patched.2.trans evicted.2⟩

/-- The cooldown of every owner is over. -/
def Over (c : Config) (now : Instant) (cl : Cluster) : Prop :=
  ∀ o ∈ cl.owners.items, ∃ d, Cooldown.deadline c.cooldownMark o = .ok d ∧ ∀ t ∈ d, t ≤ now

theorem Over.mono {later : Instant} (h : cl.Over c now) (hle : now ≤ later) : cl.Over c later := by
  intro o ho
  obtain ⟨d, hd, expired⟩ := h o ho
  exact ⟨d, hd, fun t ht => Int.le_trans (expired t ht) hle⟩

/-- If twice the recheck interval is a second at least, a cooldown is over when it has passed. -/
theorem Over.evicted {later : Instant} (h : cl.Over c now) (hc : c.Sound)
    (second : secondMicros ≤ 2 * c.recheckInterval.micros) (modern : .yearThousand ≤ now)
    (hle : now.micros + 2 * c.recheckInterval.micros ≤ later.micros)
    (evicted : cl.Evicted c now p cl') : cl'.Over c later := by
  have passed : now ≤ later := by
    have := c.recheckInterval_pos
    change now.micros ≤ later.micros
    omega
  cases evicted with
  | unowned _ =>
      have same : (cl.evict p).2.owners = cl.owners := evict_owners cl p
      intro o ho
      rw [same] at ho
      exact h.mono passed o ho
  | @owned o previous t hr hd hn =>
      have same : (cl.evict p).2.owners = cl.owners := evict_owners cl p
      obtain ⟨d, hd', expired⟩ := h o (Register.mem_of_find? (owner?_resolve hr)).1
      obtain rfl := Except.ok.inj (hd.symm.trans hd')
      have bounded := Cooldown.next?_le hn expired second
      have late := Cooldown.yearThousand_le_next? hn modern c.recheckInterval_pos
      have whole := (Cooldown.next?_spec hn).2.2
      rcases patchOwner_cases (cl.evict p).2 o (Cooldown.entry c.cooldownMark t) with
        ⟨f, refused⟩ | ⟨stored, hstored, written⟩
      · rw [refused]
        intro x hx
        rw [same] at hx
        exact h.mono passed x hx
      · rw [written]
        intro x hx
        rcases Register.mem_of_mem_put hx with rfl | hx
        · refine ⟨some t, Cooldown.deadline_annotate hc.cooldownMark late whole, ?_⟩
          rintro _ ⟨⟩
          exact Int.le_trans bounded hle
        · rw [same] at hx
          exact h.mono passed x hx

end Cluster

namespace Cycle

/-! ## The order of the candidates -/

section Order

variable {c : Config} {profiles : ProfileStore} {pods : List Pod} {nodes : List Node}
  {rs : List (List Pod)}

/-- The eligible pods of the nodes, node by node, each node's in the order of their ranking. -/
def drainOrder (c : Config) (profiles : ProfileStore) (pods : List Pod) (nodes : List Node) :
    Except Fault (List Pod) :=
  (nodes.mapM fun n => Ranking.rank profiles c.workloadLabel
    ((candidates n pods).filter (isEligible c profiles))).map List.flatten

/-- The rankings of some of the pods are what remains of the rankings of all. -/
theorem mapM_rank_filter (comparable : profiles.Comparable) (f : Pod → Bool)
    (h : rankings c profiles pods nodes = .ok rs) :
    (nodes.mapM fun n => Ranking.rank profiles c.workloadLabel ((candidates n pods).filter f)) =
      .ok (rs.map (List.filter f)) := by
  refine Fault.mapM_eq_ok_iff.mpr ?_
  have ranked := Fault.mapM_eq_ok_iff.mp h
  clear h
  induction ranked with
  | nil => exact .nil
  | cons hr _ ih => exact .cons (Ranking.rank_filter comparable f hr) ih

theorem drainOrder_eq (comparable : profiles.Comparable)
    (h : rankings c profiles pods nodes = .ok rs) :
    drainOrder c profiles pods nodes = .ok (rs.flatten.filter (isEligible c profiles)) := by
  rw [drainOrder, mapM_rank_filter comparable _ h, List.filter_flatten]
  rfl

theorem rankings_filter (comparable : profiles.Comparable) (f : Pod → Bool)
    (h : rankings c profiles pods nodes = .ok rs) :
    rankings c profiles (pods.filter f) nodes = .ok (rs.map (List.filter f)) := by
  have same (n : Node) : candidates n (pods.filter f) = (candidates n pods).filter f := by
    simp only [candidates, List.filter_filter, Bool.and_comm]
  simp only [rankings, same]
  exact mapM_rank_filter comparable f h

/-- The order of some of the pods is what remains of the order of all. -/
theorem drainOrder_filter (comparable : profiles.Comparable) (f : Pod → Bool)
    (h : rankings c profiles pods nodes = .ok rs) {order : List Pod}
    (ho : drainOrder c profiles pods nodes = .ok order) :
    drainOrder c profiles (pods.filter f) nodes = .ok (order.filter f) := by
  rw [drainOrder_eq comparable h] at ho
  cases ho
  rw [drainOrder_eq comparable (rankings_filter comparable f h), ← List.filter_flatten,
    List.filter_filter, List.filter_filter]
  simp only [Bool.and_comm]

theorem perm_of_drainOrder {order : List Pod} (h : drainOrder c profiles pods nodes = .ok order) :
    order.Perm ((nodes.flatMap (candidates · pods)).filter (isEligible c profiles)) := by
  obtain ⟨rs, hrs, rfl⟩ := Fault.map_eq_ok_iff.mp h
  have ranked := Fault.mapM_eq_ok_iff.mp hrs
  clear h hrs
  rw [List.filter_flatMap]
  induction ranked with
  | nil => exact .refl _
  | cons hr _ ih =>
      rw [List.flatten_cons, List.flatMap_cons]
      exact (perm_of_rank hr).append ih

theorem mem_of_drainOrder {order : List Pod} (h : drainOrder c profiles pods nodes = .ok order)
    {p : Pod} (hp : p ∈ order) : p ∈ pods := by
  have candidate := List.mem_of_mem_filter ((perm_of_drainOrder h).mem_iff.mp hp)
  obtain ⟨n, -, candidate⟩ := List.mem_flatMap.mp candidate
  exact List.mem_of_mem_filter candidate

/-- No pod has two places in the order. -/
theorem nodup_drainOrder {order : List Pod} (hnodes : (nodes.map Node.identity).Nodup)
    (hpods : (pods.map Pod.key).Nodup) (h : drainOrder c profiles pods nodes = .ok order) :
    (order.map Pod.key).Nodup := by
  rw [((perm_of_drainOrder h).map Pod.key).nodup_iff]
  exact (nodup_candidates hnodes hpods).sublist (List.filter_sublist.map Pod.key)

/-- Without its first pod, the order is the rest of it. -/
theorem drainOrder_tail (comparable : profiles.Comparable) {p : Pod} {rest : List Pod}
    (hnodes : (nodes.map Node.identity).Nodup) (hpods : (pods.map Pod.key).Nodup)
    (h : rankings c profiles pods nodes = .ok rs)
    (ho : drainOrder c profiles pods nodes = .ok (p :: rest)) :
    drainOrder c profiles (pods.filter fun q => decide (q.key ≠ p.key)) nodes = .ok rest := by
  have distinct := (List.nodup_cons.mp (nodup_drainOrder hnodes hpods ho)).1
  have others : ∀ q ∈ rest, q.key ≠ p.key := by
    intro q hq same
    exact distinct (same ▸ List.mem_map_of_mem hq)
  have left : (p :: rest).filter (fun q => decide (q.key ≠ p.key)) = rest := by
    rw [List.filter_cons_of_neg (by simp)]
    exact List.filter_eq_self.mpr (by simpa using others)
  have remaining := drainOrder_filter comparable (fun q => decide (q.key ≠ p.key)) h ho
  rwa [left] at remaining

end Order

/-! ## One cycle -/

/-- A scene in which nothing is in the way of an eviction but the cooldown of an owner. -/
structure Calm (c : Config) (s : Scene Cluster) : Prop where
  sound : s.cluster.Sound c
  recorder : s.recorder.Mild
  uncancelled : s.callsLeft = none
  nodesListed : s.cluster.failures .nodes = none
  podsListed : s.cluster.failures .pods = none
  evictable : ∀ p ∈ s.cluster.pods.items, s.cluster.failures (.eviction p.key) = none
  unbudgeted : ∀ p ∈ s.cluster.pods.items, s.cluster.Unbudgeted p

/-- A cycle may run at the time: it is after the year 1000, and twice the recheck interval from it is in
the calendar. -/
def Runs (c : Config) (now : Instant) : Prop :=
  .yearThousand ≤ now ∧ (Cooldown.ahead? now c.recheckInterval).isSome = true

/-- The clock stands still at the time. -/
def atTime (now : Instant) (s : Scene Cluster) : Scene Cluster := { s with clock := ⟨now.micros, []⟩ }

section Step

variable {c : Config} {profiles : ProfileStore} {now : Instant} {s : Scene Cluster}

theorem Calm.standing (calm : Calm c s) (runs : Runs c now) :
    Standing c now s.cluster (atTime now s) := by
  refine ⟨rfl, ⟨calm.sound, calm.recorder, ?_⟩, ⟨fun _ hus => List.mem_singleton.mp hus, calm.uncancelled⟩⟩
  intro us hus
  obtain rfl := List.mem_singleton.mp hus
  exact ⟨now, Instant.ofMicros?_eq_some_iff.mpr rfl, runs.2⟩

theorem Calm.lasting (calm : Calm c s) (runs : Runs c now) (hc : c.Sound)
    (second : secondMicros ≤ 2 * c.recheckInterval.micros) (expired : s.cluster.Over c now) :
    Lasting c now s.cluster := by
  refine ⟨fun o ho => ?_, ?_⟩
  · obtain ⟨d, hd, -⟩ := expired o ho
    exact (Cooldown.deadline_isOk_iff hc (calm.sound.owners o ho)).mp ⟨d, hd⟩
  · obtain ⟨t, ht⟩ := Option.isSome_iff_exists.mp runs.2
    have ahead := Instant.ofMicros?_eq_some_iff.mp ht
    rw [Option.isSome_iff_ne_none]
    intro none
    have beyond := Instant.ofMicros?_eq_none_iff.mp none
    have := t.le_last
    have := now.floorSecond.ge_first
    simp only [Instant.floorSecond, secondMicros] at *
    omega

theorem Calm.listNodes (calm : Calm c s) : s.cluster.listNodes = .ok s.cluster.nodes.items := by
  have met : s.cluster.failure? .nodes = .ok none :=
    (Cluster.failure?_of_isKey .nodes rfl).trans (congrArg Except.ok calm.nodesListed)
  rw [Cluster.listNodes, met]
  rfl

theorem Calm.listPods (calm : Calm c s) : s.cluster.listPods = .ok s.cluster.pods.items := by
  have met : s.cluster.failure? .pods = .ok none :=
    (Cluster.failure?_of_isKey .pods rfl).trans (congrArg Except.ok calm.podsListed)
  rw [Cluster.listPods, met]
  rfl

theorem Calm.evict (calm : Calm c s) {p : Pod} (hp : p ∈ s.cluster.pods.items) :
    (s.cluster.evict p).1 = .ok () := by
  simp only [Cluster.evict]
  rw [calm.evictable p hp]

/-- Every eligible candidate is a chosen one. -/
theorem Calm.chosen (calm : Calm c s) (expired : s.cluster.Over c now) {p : Pod}
    (hp : p ∈ s.cluster.pods.items) (eligible : isEligible c profiles p = true) :
    Chosen c profiles now s.cluster p := by
  refine ⟨eligible, fun o resolved => ?_, calm.unbudgeted p hp, ?_⟩
  · exact expired o (Register.mem_of_find? (Cluster.owner?_resolve resolved)).1
  · rw [Cluster.grants, calm.evict hp]
    rfl

/-- Nothing gets in the way of what remains. -/
theorem Calm.remains {s' : Scene Cluster} (calm : Calm c s) (sound : s'.Sound c)
    (uncancelled : s'.callsLeft = none) (budgets : s'.cluster.budgets = s.cluster.budgets)
    (failures : s'.cluster.failures = s.cluster.failures)
    (remaining : ∀ q ∈ s'.cluster.pods.items, q ∈ s.cluster.pods.items) : Calm c s' := by
  refine ⟨sound.cluster, sound.equipped.recorder, uncancelled, ?_, ?_, ?_, ?_⟩
  · rw [failures]
    exact calm.nodesListed
  · rw [failures]
    exact calm.podsListed
  · intro q hq
    rw [failures]
    exact calm.evictable q (remaining q hq)
  · intro q hq
    obtain ⟨bs, listed, allowed⟩ := calm.unbudgeted q (remaining q hq)
    refine ⟨bs, ?_, allowed⟩
    rw [← listed]
    simp only [Cluster.listBudgets, Cluster.failure?, budgets, failures]

/-- Where the lists can be had, a cycle that may evict any candidate stops at the first of the order. -/
theorem Calm.first_eq {order : List Pod} {rs : List (List Pod)} {first : Option Pod} {r : CycleResult}
    (calm : Calm c s) (comparable : profiles.Comparable)
    (hrs : rankings c profiles s.cluster.pods.items (s.cluster.nodes.items.filter (isDegraded c)) =
      .ok rs)
    (ho : drainOrder c profiles s.cluster.pods.items
      (s.cluster.nodes.items.filter (isDegraded c)) = .ok order)
    (selects : Selects c profiles (fun _ => true) s.cluster first r) : first = order.head? := by
  have degradedOf {ns ds : List Node} (hn : s.cluster.listNodes = .ok ns)
      (hd : degraded c ns = .ok ds) : ds = s.cluster.nodes.items.filter (isDegraded c) := by
    obtain rfl := Except.ok.inj (calm.listNodes.symm.trans hn)
    exact (Fault.ifKey_eq_ok_iff.mp hd).2.symm
  rw [drainOrder_eq comparable hrs] at ho
  cases ho
  cases selects with
  | nodesUnlisted hn =>
      rw [calm.listNodes] at hn
      cases hn
  | healthy hn hd =>
      rw [← degradedOf hn hd] at hrs
      cases hrs
      rfl
  | podsUnlisted hn hd hp =>
      rw [calm.listPods] at hp
      cases hp
  | selected hn hd hp hq =>
      obtain rfl := Except.ok.inj (calm.listPods.symm.trans hp)
      rw [degradedOf hn hd, queue, hrs] at hq
      cases hq
      rw [List.filter_true]

/-- A cycle takes the first pod of the order and leaves the rest of it to the cycles that follow when the
cooldown has passed. -/
theorem drains_cycle {order : List Pod} (hc : c.Sound) (hprofiles : profiles.Sound)
    (comparable : profiles.Comparable) (profiled : profiles.isEmpty = false)
    (single : c.isSingle = true) (second : secondMicros ≤ 2 * c.recheckInterval.micros)
    (calm : Calm c s) (runs : Runs c now) (expired : s.cluster.Over c now)
    (ho : drainOrder c profiles s.cluster.pods.items
      (s.cluster.nodes.items.filter (isDegraded c)) = .ok order) :
    (reconcile c profiles).Ensures Cluster.world [] (atTime now s) fun o _ s' =>
      ∃ r, o = .ok r ∧ r.evicted = (order.take 1).map Pod.key ∧ Calm c s' ∧
        drainOrder c profiles s'.cluster.pods.items
          (s'.cluster.nodes.items.filter (isDegraded c)) = .ok (order.drop 1) ∧
        ∀ later : Instant, now.micros + 2 * c.recheckInterval.micros ≤ later.micros →
          s'.cluster.Over c later := by
  have standing := calm.standing runs
  have lasting := calm.lasting runs hc second expired
  obtain ⟨first, r, outcome, selects, evicted, takes⟩ :=
    takes_reconcile (l := []) (fun _ => true) hc hprofiles profiled single standing lasting
    fun p hp eligible => iff_of_true rfl (calm.chosen expired hp eligible)
  have leads := World.Leads.run Cluster.world (reconcile c profiles) (atTime now s)
  have sound := (standing.sound.answered (conducts_reconcile hc hprofiles Cluster.world _).1 leads).2
  have uncancelled := (standing.steady.leads leads).uncancelled
  obtain ⟨rs, hrs⟩ := rankings_isOk hc hprofiles calm.sound.pods
    (s.cluster.nodes.items.filter (isDegraded c))
  obtain rfl := calm.first_eq comparable hrs ho selects
  refine ⟨r, outcome, ?_⟩
  generalize ((reconcile c profiles).run Cluster.world (atTime now s)).state = s' at *
  rw [evicted]
  cases order with
  | nil =>
      cases takes with
      | nobody after =>
          have same := after.cluster
          refine ⟨rfl, ?_, ?_, ?_⟩
          · exact calm.remains sound uncancelled (by rw [same]) (by rw [same]) (by simp [same])
          · rw [same]
            exact ho
          · intro later hle
            have := c.recheckInterval_pos
            rw [same]
            refine expired.mono ?_
            change now.micros ≤ later.micros
            omega
  | cons p rest =>
      cases takes with
      | rateLimited limited same =>
          rw [calm.evict (mem_of_drainOrder ho (by simp))] at limited
          cases limited
      | evicted accepted taken =>
          obtain ⟨nodes, budgets, failures⟩ := taken.frame
          have pods := pods_of_evicted taken accepted
          refine ⟨by simp [walkOf, accepted, isRateLimited], ?_, ?_, ?_⟩
          · refine calm.remains sound uncancelled budgets failures fun q hq => ?_
            rw [pods] at hq
            exact (Register.mem_remove.mp hq).1
          · rw [nodes, pods]
            exact drainOrder_tail comparable
              (s.cluster.nodes.nodup.sublist (List.filter_sublist.map _)) s.cluster.pods.nodup hrs ho
          · exact fun later hle => expired.evicted hc second runs.1 hle taken

end Step

/-! ## Cycle after cycle -/

/-- The outcomes of cycles that follow each other. -/
def outcomes (c : Config) : List Turn → Scene Cluster → List (Except Fault CycleResult)
  | [], _ => []
  | turn :: rest, s =>
    let run := (reconcile c turn.profiles).run Cluster.world (turn.outside s)
    run.outcome :: outcomes c rest run.state

/-- A cycle that begins at the time, as long as the clock stands still. -/
def turnAt (profiles : ProfileStore) (now : Instant) : Turn := ⟨atTime now, profiles⟩

section Run

variable {c : Config} {profiles : ProfileStore} {times : List Instant} {s : Scene Cluster}

/-- The pods that cycles take, in an order that is known. -/
theorem drains_cycles {order : List Pod} (hc : c.Sound) (hprofiles : profiles.Sound)
    (comparable : profiles.Comparable) (profiled : profiles.isEmpty = false)
    (single : c.isSingle = true) (second : secondMicros ≤ 2 * c.recheckInterval.micros)
    (calm : Calm c s) (expired : ∀ now ∈ times.head?, s.cluster.Over c now)
    (runs : ∀ now ∈ times, Runs c now)
    (apart : times.IsChain fun now later =>
      now.micros + 2 * c.recheckInterval.micros ≤ later.micros)
    (ho : drainOrder c profiles s.cluster.pods.items
      (s.cluster.nodes.items.filter (isDegraded c)) = .ok order) :
    ∃ rs : List CycleResult, outcomes c (times.map (turnAt profiles)) s = rs.map .ok ∧
      rs.flatMap CycleResult.evicted = (order.take times.length).map Pod.key ∧
      accepted (cycles c (times.map (turnAt profiles)) s) = (order.take times.length).map Pod.key := by
  induction times generalizing s order with
  | nil => exact ⟨[], rfl, rfl, rfl⟩
  | cons now times ih =>
      obtain ⟨r, outcome, evicted, calm, ho, later⟩ := drains_cycle hc hprofiles comparable profiled
        single second calm (runs now (by simp)) (expired now rfl) ho
      have closes := closes_reconcile c profiles Cluster.world (atTime now s)
      rw [outcome] at closes
      obtain ⟨after, apart⟩ := List.isChain_cons.mp apart
      obtain ⟨rs, outcomes, evictions, acceptances⟩ := ih calm
        (fun t ht => later t (after t ht)) (fun t ht => runs t (by simp [ht])) apart ho
      have first : order.take (times.length + 1) =
          order.take 1 ++ (order.drop 1).take times.length := by
        rw [Nat.add_comm, List.take_add]
      refine ⟨r :: rs, ?_, ?_, ?_⟩
      · exact congrArg₂ List.cons outcome outcomes
      · rw [List.flatMap_cons, evicted, evictions, List.length_cons, first, List.map_append]
      · rw [List.map_cons, cycles, accepted_append, List.length_cons, first, List.map_append,
          ← evicted, closes.1.evicted, ← acceptances]
        rfl

end Run

/-- Cycles at times that are twice the recheck interval apart drain the degraded nodes in order: each takes
the next of the eligible pods that were there at first, as long as there is one. The scene is calm, and so
sound: no node, pod or owner has an empty name, since a recorder refuses an event about an object without
a name, and a cycle that meets a refusal fails. -/
theorem drained_in_order (c : Config) (profiles : ProfileStore) (times : List Instant)
    (s : Scene Cluster) (hc : c.Sound) (hprofiles : profiles.Sound)
    (comparable : profiles.Comparable) (profiled : profiles.isEmpty = false)
    (single : c.isSingle = true) (second : secondMicros ≤ 2 * c.recheckInterval.micros)
    (calm : Calm c s) (expired : ∀ now ∈ times.head?, s.cluster.Over c now)
    (runs : ∀ now ∈ times, Runs c now)
    (apart : times.IsChain fun now later =>
      now.micros + 2 * c.recheckInterval.micros ≤ later.micros) :
    ∃ order, ∃ rs : List CycleResult, drainOrder c profiles s.cluster.pods.items
        (s.cluster.nodes.items.filter (isDegraded c)) = .ok order ∧
      outcomes c (times.map (turnAt profiles)) s = rs.map .ok ∧
      rs.flatMap CycleResult.evicted = (order.take times.length).map Pod.key ∧
      accepted (cycles c (times.map (turnAt profiles)) s) =
        (order.take times.length).map Pod.key := by
  obtain ⟨rankings, ranked⟩ := rankings_isOk hc hprofiles calm.sound.pods
    (s.cluster.nodes.items.filter (isDegraded c))
  have ho := drainOrder_eq comparable ranked
  obtain ⟨rs, run⟩ := drains_cycles hc hprofiles comparable profiled single second calm expired runs apart ho
  exact ⟨_, rs, ho, run⟩

/-! ## Two cycles -/

namespace Sample

theorem cluster_sound : cluster.Sound config :=
  ⟨nodes_sound, pods_sound, fun b hb => (by cases hb), owners_sound, fun pod f hf => (by cases hf)⟩

theorem profiles_comparable : ProfileStore.Comparable profiles := by
  intro p hp n hn
  cases List.mem_singleton.mp hp
  cases hn
  rfl

theorem scene_calm : Calm config scene := by
  refine ⟨cluster_sound, trivial, rfl, rfl, rfl, fun _ _ => rfl, fun p hp => ⟨[], ?_, by simp⟩⟩
  have key : (FailurePoint.budgets p.ns).isKey = true := Document.isKey_of_isText (pods_sound p hp).ns
  rw [Cluster.listBudgets, Cluster.failure?_of_isKey _ key]
  rfl

theorem over_noon : scene.cluster.Over config noon := by
  intro o ho
  cases List.mem_singleton.mp ho
  exact ⟨none, by decide, by simp⟩

end Sample

open Sample in
theorem drained_in_order_sample :
    config.Sound ∧ ProfileStore.Sound profiles ∧ ProfileStore.Comparable profiles ∧
      Calm config scene ∧ scene.cluster.Over config noon ∧
      (∀ now ∈ [noon, later], Runs config now) ∧
      accepted (cycles config ([noon, later].map (turnAt profiles)) scene) =
        ["shop/web-1", "shop/web-2"] := by
  have runs : ∀ now ∈ [noon, later], Runs config now := by
    simp only [Runs]
    decide
  refine ⟨config_sound, profiles_sound, profiles_comparable, scene_calm, over_noon, runs, ?_⟩
  obtain ⟨order, rs, ho, -, -, accepted⟩ := drained_in_order config profiles [noon, later] scene config_sound
    profiles_sound profiles_comparable rfl rfl (by decide) scene_calm
    (by rintro _ ⟨⟩; exact over_noon) runs (by decide)
  have names : (match drainOrder config profiles scene.cluster.pods.items
        (scene.cluster.nodes.items.filter (isDegraded config)) with
      | .ok order => order.map Pod.key
      | .error _ => []) = ["shop/web-1", "shop/web-2"] := by decide +kernel
  rw [ho] at names
  rw [accepted, List.map_take]
  exact congrArg (List.take 2) names

end Cycle

end NodeRelief
