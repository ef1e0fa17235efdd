import NodeRelief.Proofs.Cycle.Justification
import NodeRelief.Proofs.Cycle.Outline
import Mathlib.Data.List.Perm.Subperm

/-! # How much a cycle evicts

Whatever the world answers, a cycle asks for no pod twice, takes from a degraded node no more pods than the
cap allows and from another node none. A rate limit is the last call that it makes, and if it is to evict a
single pod, its first eviction is the last that it asks for. -/

namespace NodeRelief

variable {σ : Type}

namespace Cycle

variable {c : Config} {profiles : ProfileStore} {n : Node} {p : Pod} {pods : List Pod}
  {l k : List (Exchange σ)}

/-! ## The requests of one visit -/

/-- What a visit comes to by the answer to its request for an eviction. -/
def verdictOn : Except Fault Unit → Verdict
  | .ok () => .evicted
  | .error f => if isRateLimited (.error f) then .rateLimited else .passed

/-- The exchanges of a visit, as far as they matter to the bounds: it asks for the eviction of its pod once
or not at all, and is silent after a rate limit. -/
inductive Requests (p : Pod) : List (Exchange σ) → Except Fault Verdict → Prop where
  | nothing {k v} (hk : evictions k = []) (hv : ∀ w, v = .ok w → w = .passed ∨ w = .cancelled) :
      Requests p k v
  | asked {k s g a k' v} (hk : evictions k = []) (hk' : evictions k' = [])
      (silent : isRateLimited a = true → ∀ e ∈ k', e.query.isCall = false)
      (hv : ∀ w, v = .ok w → w = verdictOn a) :
      Requests p (k ++ ⟨s, .call (.evict p g), a⟩ :: k') v

theorem verdictOn_of_rateLimited {a : Except Fault Unit} {message : String}
    (h : Eviction.outcome? a = some (.rateLimited message)) : verdictOn a = .rateLimited := by
  rw [Eviction.eq_of_outcome?_rateLimited h]
  rfl

theorem verdictOn_of_failed {p : Pod} {a : Except Fault Unit} {message : String}
    (h : Eviction.outcome? a = some (.failed message)) : verdictOn a = .passed := by
  obtain ⟨refused, unlimited⟩ := Eviction.of_outcome?_failed (p := p) h
  cases a with
  | ok u => cases refused
  | error f => simp [verdictOn, unlimited]

theorem evictions_of_reads (h : ∀ e ∈ l, e.query.isRead = true) : evictions l = [] := by
  refine List.filterMap_eq_nil_iff.mpr fun e he => ?_
  simpa [e.evictee?_eq] using Query.evictee?_of_isRead (h e he)

theorem Attempts.requests {owner : Option Owner} {v : Except Fault Verdict} (hl : evictions l = [])
    (h : Attempts c n p owner k v) : Requests p (l ++ k) v := by
  cases h with
  | @rateLimited a message ha s s' r v hv =>
      refine .asked hl rfl (fun _ => by simp [Query.isCall]) ?_
      rintro w rfl
      obtain ⟨_, -, rfl⟩ := Fault.map_eq_ok_iff.mp hv
      exact (verdictOn_of_rateLimited ha).symm
  | @failed a message ha s s' r v hv =>
      refine .asked hl rfl (fun _ => by simp [Query.isCall]) ?_
      rintro w rfl
      obtain ⟨_, -, rfl⟩ := Fault.map_eq_ok_iff.mp hv
      exact (verdictOn_of_failed (p := p) ha).symm
  | broken ha s => exact .asked hl rfl (by simp) (by simp)
  | unreported s s' f => exact .asked hl rfl (fun _ => by simp [Query.isCall]) (by simp)
  | @evicted k u hk s s' v hv =>
      refine .asked hl ?_ (by simp [isRateLimited]) ?_
      · have quiet : Plain (⟨s', .record (.podEvicted p n.name), .ok ()⟩ :: k) := by
          intro e he
          rcases List.mem_cons.mp he with rfl | he
          · rfl
          · exact hk.plain e he
        exact quiet.evictions
      · rintro w rfl
        obtain ⟨_, -, rfl⟩ := Fault.map_eq_ok_iff.mp hv
        rfl

theorem Visits.requests {v : Except Fault Verdict} (h : Visits c profiles n p k v) :
    Requests p k v := by
  rcases h.reads_or_attempts with ⟨reads, hv⟩ | ⟨k, s, bs, owner, k', rfl, reads, -, ha⟩
  · exact .nothing (evictions_of_reads reads) hv
  · rw [List.append_cons]
    refine ha.requests ?_
    rw [evictions_append, evictions_of_reads reads]
    rfl

/-- Only the opening lists the nodes. -/
theorem Visits.not_listNodes {v : Except Fault Verdict} (h : Visits c profiles n p k v) :
    ∀ e ∈ k, e.query ≠ .call .listNodes := by
  have inspects {now d} {k : List (Exchange σ)} (hj : Admission.Judges c.cooldownMark p now k d) (e : Exchange σ)
      (he : e ∈ k) : e.query ≠ .call .listNodes := by
    intro listing
    have inspects := hj.inspects e he
    rw [listing] at inspects
    cases inspects
  cases h with
  | cancelled s => simp
  | ineligible he s => simp
  | timeless he s s' f => simp
  | unjudged he hj s s' => simpa using inspects hj
  | rejected he hj hd s s' => simpa using inspects hj
  | @admitted now k k' d v he hj hd ha s s' =>
      have attempt : ∀ e ∈ k', e.query ≠ .call .listNodes := by
        cases ha with
        | rateLimited ha s s' r hv => simp
        | failed ha s s' r hv => simp
        | broken ha s => simp
        | unreported s s' f => simp
        | evicted hl s s' hv =>
            generalize d.owner = owner at hl
            cases hl with
            | unowned => simp
            | timeless s f => simp
            | recorded hl s hu => cases hl <;> simp
      simpa [or_imp, forall_and] using ⟨inspects hj, attempt⟩

/-! ## Where a cycle stops -/

/-- Whether a cycle asks for no eviction after one that is answered so. -/
def isFinal (c : Config) (a : Except Fault Unit) : Bool := isRateLimited a || (c.isSingle && a.isOk)

/-- No eviction was answered finally. -/
def Unfinished (c : Config) (l : List (Exchange σ)) : Prop := ∀ x ∈ evictions l, isFinal c x.2 = false

/-- After a final answer no eviction is asked for, and after a rate limit there is no call at all. -/
def Quiet (c : Config) (h : List (Exchange σ)) (e : Exchange σ) : Prop :=
  ∀ x ∈ evictions h, (isFinal c x.2 = true → e.eviction? = none) ∧
    (isRateLimited x.2 = true → e.query.isCall = false)

theorem Unfinished.quiet {e : Exchange σ} (h : Unfinished c l) : Quiet c l e := by
  intro x hx
  have unfinished := h x hx
  simp only [isFinal, Bool.or_eq_false_iff] at unfinished
  simp [isFinal, unfinished.1, unfinished.2]

theorem Unfinished.append (h : Unfinished c l) (hk : Unfinished c k) : Unfinished c (l ++ k) := by
  intro x hx
  rw [evictions_append] at hx
  rcases List.mem_append.mp hx with hx | hx
  · exact h x hx
  · exact hk x hx

theorem unfinished_of_evictions (h : evictions l = []) : Unfinished c l := by
  simp [Unfinished, h]

/-- Exchanges that ask for no eviction, and for nothing at all after a rate limit. -/
theorem throughout_quiet (hk : evictions k = [])
    (silent : (∃ x ∈ evictions l, isRateLimited x.2 = true) → ∀ e ∈ k, e.query.isCall = false) :
    Throughout (Quiet c) l k := by
  induction k generalizing l with
  | nil => trivial
  | cons e k ih =>
      obtain ⟨he, hk⟩ : e.eviction? = none ∧ evictions k = [] := by
        simpa [evictions, List.filterMap_cons] using List.filterMap_eq_nil_iff.mp hk
      have same : evictions (l ++ [e]) = evictions l := by simp [evictions, he]
      refine ⟨fun x hx => ⟨fun _ => he, fun limited => silent ⟨x, hx, limited⟩ e (by simp)⟩, ih hk ?_⟩
      rw [same]
      exact fun limited e he => silent limited e (by simp [he])

theorem Unfinished.unlimited (h : Unfinished c l) : ¬ ∃ x ∈ evictions l, isRateLimited x.2 = true := by
  rintro ⟨x, hx, limited⟩
  have unfinished := h x hx
  simp [isFinal, limited] at unfinished

/-- A visit asks for nothing that comes after a final answer. -/
theorem Unfinished.visit {v : Except Fault Verdict} (h : Unfinished c l) (hk : Requests p k v) :
    Throughout (Quiet c) l k := by
  cases hk with
  | nothing hk hv => exact throughout_quiet hk fun limited => absurd limited h.unlimited
  | @asked k s g a k' v hk hk' silent hv =>
      have past : Unfinished c (l ++ k) := h.append (unfinished_of_evictions hk)
      refine Throughout.append_iff.mpr ⟨?_, past.quiet, throughout_quiet hk' ?_⟩
      · exact throughout_quiet hk fun limited => absurd limited h.unlimited
      · rintro ⟨x, hx, limited⟩
        rw [evictions_append] at hx
        rcases List.mem_append.mp hx with hx | hx
        · exact absurd ⟨x, hx, limited⟩ past.unlimited
        · obtain rfl : x = (p, a) := by simpa [evictions, Exchange.eviction?] using hx
          exact silent limited

theorem Requests.evictions {v : Except Fault Verdict} (h : Requests p k v) :
    (NodeRelief.evictions k = [] ∧ ∀ w, v = .ok w → w = .passed ∨ w = .cancelled) ∨
      ∃ a, NodeRelief.evictions k = [(p, a)] ∧ ∀ w, v = .ok w → w = verdictOn a := by
  cases h with
  | nothing hk hv => exact .inl ⟨hk, hv⟩
  | @asked k s g a k' v hk hk' silent hv =>
      refine .inr ⟨a, ?_, hv⟩
      rw [evictions_append, hk]
      simpa [NodeRelief.evictions, Exchange.eviction?] using hk'

/-- The walk goes on only if the answer is not final. -/
theorem Unfinished.goesOn {v : Verdict} (h : Unfinished c l) (hk : Requests p k (.ok v))
    (hv : v = .passed ∨ v = .cancelled ∨ v = .evicted ∧ c.isSingle = false) :
    Unfinished c (l ++ k) := by
  refine h.append ?_
  rcases hk.evictions with ⟨hk, -⟩ | ⟨a, hk, answered⟩
  · exact unfinished_of_evictions hk
  intro x hx
  obtain rfl : x = (p, a) := by simpa [hk] using hx
  have verdict := answered v rfl
  cases a with
  | ok u =>
      have many : c.isSingle = false := by
        rw [verdict] at hv
        simpa [verdictOn] using hv
      simp [isFinal, isRateLimited, many]
  | error f =>
      have unlimited : isRateLimited (.error f) = false := by
        by_contra limited
        rw [verdict] at hv
        simp [verdictOn, limited] at hv
      simp [isFinal, unlimited, Except.isOk, Except.toBool]

/-! ## The requests of a relief -/

/-- How many evictions of pods on a node are accepted among requests. -/
def takenFrom (n : Node) (rs : List (Pod × Except Fault Unit)) : Nat :=
  rs.countP fun x => x.2.isOk && x.1.node.equals n.name

/-- The requests of a relief, node by node: they are about different candidates of the node, and one is
accepted only as long as the cap is not reached. -/
inductive Shares (c : Config) (pods : List Pod) : List Node → List (Pod × Except Fault Unit) → Prop where
  | none : Shares c pods [] []
  | more {done rs n part} (h : Shares c pods done rs)
      (hpart : (part.map Prod.fst).Subperm (candidates n pods))
      (unspent : ∀ k < part.countP (·.2.isOk), c.isSpent k = false) :
      Shares c pods (done ++ [n]) (rs ++ part)

namespace Shares

variable {done : List Node} {rs : List (Pod × Except Fault Unit)}

theorem subperm (h : Shares c pods done rs) :
    (rs.map Prod.fst).Subperm (done.flatMap (candidates · pods)) := by
  induction h with
  | none => exact .refl _
  | more h hpart unspent ih =>
      rw [List.map_append, List.flatMap_append]
      exact ih.append (by simpa using hpart)

theorem located (h : Shares c pods done rs) :
    ∀ x ∈ rs, ∃ n ∈ done, x.1.node.equals n.name = true := by
  intro x hx
  obtain ⟨n, hn, candidate⟩ := List.mem_flatMap.mp (h.subperm.subset (List.mem_map_of_mem hx))
  simp only [candidates, List.mem_filter, Bool.and_eq_true] at candidate
  exact ⟨n, hn, candidate.2.1⟩

end Shares

/-- A pod is on one node only. -/
theorem identity_eq_of_located {m : Node} (hm : p.node.equals m.name = true)
    (hn : p.node.equals n.name = true) : m.identity = n.identity := by
  simp only [Document.equals, Bool.and_eq_true, Document.agrees_iff] at hm hn
  exact hm.1.symm.trans hn.1

theorem takenFrom_eq_zero {rs : List (Pod × Except Fault Unit)}
    (h : ∀ x ∈ rs, ∃ m : Node, x.1.node.equals m.name = true ∧ m.identity ≠ n.identity) :
    takenFrom n rs = 0 := by
  refine List.countP_eq_zero.mpr fun x hx located => ?_
  obtain ⟨m, hm, other⟩ := h x hx
  rw [Bool.and_eq_true] at located
  exact other (identity_eq_of_located hm located.2)

theorem takenFrom_append (n : Node) (rs part : List (Pod × Except Fault Unit)) :
    takenFrom n (rs ++ part) = takenFrom n rs + takenFrom n part :=
  List.countP_append

namespace Shares

variable {done : List Node} {rs : List (Pod × Except Fault Unit)}

/-- Nothing is taken from a node that the relief has not come to. -/
theorem spared (h : Shares c pods done rs) (hn : n.identity ∉ done.map Node.identity) :
    takenFrom n rs = 0 := by
  refine takenFrom_eq_zero fun x hx => ?_
  obtain ⟨m, hm, located⟩ := h.located x hx
  exact ⟨m, located, fun same => hn (same ▸ List.mem_map_of_mem hm)⟩

/-- No eviction from a node was accepted that the cap does not allow. -/
theorem capped (h : Shares c pods done rs) (distinct : (done.map Node.identity).Nodup)
    (hn : n ∈ done) : ∀ k < takenFrom n rs, c.isSpent k = false := by
  induction h with
  | none => cases hn
  | @more done rs m part h hpart unspent ih =>
      have onlyHere : ∀ x ∈ part, x.1.node.equals m.name = true := by
        intro x hx
        have candidate := hpart.subset (List.mem_map_of_mem hx)
        simp only [candidates, List.mem_filter, Bool.and_eq_true] at candidate
        exact candidate.2.1
      rw [List.map_append, List.nodup_append] at distinct
      obtain ⟨distinct, -, apart⟩ := distinct
      rw [takenFrom_append]
      rcases List.mem_append.mp hn with hn | hn
      · have elsewhere : takenFrom n part = 0 := by
          refine takenFrom_eq_zero fun x hx => ⟨m, onlyHere x hx, fun same => ?_⟩
          exact apart _ (List.mem_map_of_mem hn) _ (List.mem_singleton_self _) same.symm
        rw [elsewhere]
        exact ih distinct hn
      · obtain rfl := List.mem_singleton.mp hn
        have before : takenFrom n rs = 0 := by
          refine h.spared fun hn => ?_
          exact apart _ hn _ (List.mem_singleton_self _) rfl
        rw [before, Nat.zero_add]
        intro k hk
        refine unspent k (Nat.lt_of_lt_of_le hk (List.countP_mono_left ?_))
        intro x _ accepted
        rw [Bool.and_eq_true] at accepted
        exact accepted.1

end Shares

/-! ## The loops -/

/-- The requests of a walk that still has the rest of the ranked candidates before it. -/
def Partway (c : Config) (ranked rest : List Pod) (taken : Nat)
    (past rs : List (Pod × Except Fault Unit)) : Prop :=
  ∃ visited part, ranked = visited ++ rest ∧ rs = past ++ part ∧ (part.map Prod.fst).Sublist visited ∧
    part.countP (·.2.isOk) = taken ∧ ∀ k < taken, c.isSpent k = false

namespace Partway

variable {ranked rest : List Pod} {taken : Nat} {past rs : List (Pod × Except Fault Unit)}
  {done : List Node}

theorem shares (h : Partway c ranked rest taken past rs) (perm : ranked.Perm (candidates n pods))
    (hpast : Shares c pods done past) : Shares c pods (done ++ [n]) rs := by
  obtain ⟨visited, part, rfl, rfl, hpart, rfl, unspent⟩ := h
  refine .more hpast ?_ unspent
  exact (hpart.trans (List.sublist_append_left visited rest)).subperm.trans perm.subperm

/-- With a visit the walk is a candidate further, and may have taken it. -/
theorem visit {v : Except Fault Verdict} (h : Partway c ranked (p :: rest) taken past (evictions l))
    (unspent : c.isSpent taken = false) (hk : Requests p k v) :
    ∃ taken', Partway c ranked rest taken' past (evictions (l ++ k)) ∧
      (v = .ok .passed → taken' = taken) ∧ (v = .ok .evicted → taken' = taken + 1) := by
  obtain ⟨visited, part, rfl, hl, hpart, rfl, allowed⟩ := h
  rw [evictions_append, hl]
  rcases hk.evictions with ⟨hk, hv⟩ | ⟨a, hk, hv⟩
  · refine ⟨_, ⟨visited ++ [p], part, by simp, by simp [hk], ?_, rfl, allowed⟩, fun _ => rfl, ?_⟩
    · exact hpart.trans (List.sublist_append_left ..)
    · intro evicted
      rcases hv _ evicted with h | h <;> cases h
  · refine ⟨_, ⟨visited ++ [p], part ++ [(p, a)], by simp, by simp [hk], ?_, rfl, ?_⟩, ?_, ?_⟩
    · rw [List.map_append]
      exact hpart.append (.refl _)
    · intro k hk
      have upTo : k ≤ part.countP (·.2.isOk) := by
        rw [List.countP_append] at hk
        have one := List.countP_le_length (p := (·.2.isOk)) (l := [(p, a)])
        simp only [List.length_singleton] at one
        omega
      rcases Nat.lt_or_eq_of_le upTo with before | rfl
      · exact allowed k before
      · exact unspent
    · intro passed
      cases a with
      | ok u => cases hv _ passed
      | error f => simp [List.countP_append, Except.isOk, Except.toBool]
    · intro evicted
      cases a with
      | ok u => simp [List.countP_append, Except.isOk, Except.toBool]
      | error f =>
          have verdict := hv _ evicted
          simp only [verdictOn] at verdict
          split at verdict <;> cases verdict

end Partway

/-- What the lists of a cycle were. -/
structure Listed (nodes : List Node) (pods : List Pod) (l : List (Exchange σ)) : Prop where
  nodesListed : ∃ s, ⟨s, .call .listNodes, .ok nodes⟩ ∈ l
  podsListed : ∃ s, ⟨s, .call .listPods, .ok pods⟩ ∈ l
  only : ∀ s ns, ⟨s, .call .listNodes, .ok ns⟩ ∈ l → ns = nodes

theorem Listed.append {nodes : List Node} (h : Listed nodes pods l)
    (hk : ∀ e ∈ k, e.query ≠ .call .listNodes) : Listed nodes pods (l ++ k) := by
  obtain ⟨⟨s, hs⟩, ⟨s', hs'⟩, only⟩ := h
  refine ⟨⟨s, by simp [hs]⟩, ⟨s', by simp [hs']⟩, fun s'' ns he => ?_⟩
  rcases List.mem_append.mp he with he | he
  · exact only s'' ns he
  · exact absurd rfl (hk _ he)

theorem Opens.listed {ds : List Node} (h : Opens c profiles l (.ok (.inr (ds, pods)))) :
    ∃ nodes, degraded c nodes = .ok ds ∧ Listed nodes pods l := by
  cases h with
  | @opened nodes ds k pods hd hk s s' s'' s₃ =>
      have told : ∀ e ∈ k, e.query ≠ .call .listNodes := by
        intro e he listing
        have inspects := hk.records e he
        rw [listing] at inspects
        cases inspects
      refine ⟨nodes, hd, ⟨s', by simp⟩, ⟨s₃, by simp⟩, fun s ns he => ?_⟩
      have unlisted : ⟨s, .call .listNodes, .ok ns⟩ ∉ k := fun he => told _ he rfl
      simp [unlisted] at he
      exact he.2

/-- What a relief that has come to the nodes `done` of the listed ones keeps to. -/
structure Relieves (c : Config) (nodes : List Node) (pods : List Pod) (done : List Node)
    (l : List (Exchange σ)) : Prop where
  listed : Listed nodes pods l
  quiet : Throughout (Quiet c) [] l
  shares : Shares c pods done (evictions l)

section Loops

variable {w : World σ} {s : σ} {nodes ds done : List Node}

theorem relieves_walk {ranked : List Pod} (perm : ranked.Perm (candidates n pods))
    (unfinished : Unfinished c l) (relieves : Relieves c nodes pods done l) :
    (walk c profiles n [] ranked).Ensures w l s fun o l _ =>
      Relieves c nodes pods (done ++ [n]) l ∧
        ∀ taken, o = .ok ⟨taken, .finished⟩ → c.isSingle = false ∨ taken = [] → Unfinished c l := by
  generalize hpast : evictions l = past
  have hshares := hpast ▸ relieves.shares
  refine walk_ensures (I := fun taken rest l s => Unfinished c l ∧ Listed nodes pods l ∧
    Throughout (Quiet c) [] l ∧ Partway c ranked rest taken.length past (evictions l)) ?_ ?_
    ⟨unfinished, relieves.listed, relieves.quiet, ?_⟩
  · rintro taken rest l s ⟨unfinished, listed, quiet, partway⟩ -
    exact ⟨⟨listed, quiet, partway.shares perm hshares⟩, fun _ _ _ => unfinished⟩
  · rintro taken p rest l s ⟨unfinished, listed, quiet, partway⟩ unspent
    apply Plan.Ensures.of_course
    intro k v s' hk hl
    have visits := visits_of_course hk
    have requests := visits.requests
    have listed := listed.append visits.not_listNodes
    have quiet := Throughout.append_iff.mpr ⟨quiet, unfinished.visit requests⟩
    obtain ⟨taken', partway, passed, evicted⟩ := partway.visit unspent requests
    have relieves : Relieves c nodes pods (done ++ [n]) (l ++ k) :=
      ⟨listed, quiet, partway.shares perm hshares⟩
    match v with
    | .ok .passed =>
      obtain rfl := passed rfl
      exact ⟨unfinished.goesOn requests (.inl rfl), listed, quiet, partway⟩
    | .ok .evicted =>
      obtain rfl := evicted rfl
      refine ⟨fun single => ⟨relieves, ?_⟩, fun many => ⟨?_, listed, quiet, by simpa using partway⟩⟩
      · rintro _ ⟨rfl⟩ ended
        simp [single] at ended
      · exact unfinished.goesOn requests (.inr (.inr ⟨rfl, many⟩))
    | .ok .rateLimited => exact ⟨relieves, nofun⟩
    | .ok .cancelled => exact ⟨relieves, nofun⟩
    | .error f => exact ⟨relieves, nofun⟩
  · exact ⟨[], [], rfl, by simp [hpast], .refl _, rfl, by simp⟩

theorem relieves_relieve (unfinished : Unfinished c l) (relieves : Relieves c nodes pods [] l)
    {evicted : List String} :
    (relieve c profiles pods evicted ds).Ensures w l s fun _ l _ =>
      ∃ done, done <+: ds ∧ Relieves c nodes pods done l := by
  refine relieve_ensures (J := fun _ rest l s => ∃ done, ds = done ++ rest ∧ Unfinished c l ∧
    Relieves c nodes pods done l) ?_ ?_ ?_ ⟨[], rfl, unfinished, relieves⟩
  · rintro evicted l s ⟨done, rfl, -, relieves⟩
    exact ⟨done, by simp, relieves⟩
  · rintro evicted n rest l s f ⟨done, rfl, -, relieves⟩ -
    exact ⟨done, by simp, relieves⟩
  · rintro evicted n rest l s ranked ⟨done, rfl, unfinished, relieves⟩ hranked
    refine (relieves_walk (perm_of_rank hranked) unfinished relieves).mono ?_
    rintro o l' s' ⟨relieves, unfinished⟩
    have ends : ∃ done', done' <+: done ++ n :: rest ∧ Relieves c nodes pods done' l' :=
      ⟨done ++ [n], by simp, relieves⟩
    match o with
    | .ok ⟨taken, .rateLimited⟩ => exact ends
    | .ok ⟨taken, .cancelled⟩ => exact ends
    | .ok ⟨taken, .finished⟩ =>
      exact ⟨fun _ _ => ends, fun goesOn => ⟨done ++ [n], by simp, unfinished taken rfl goesOn, relieves⟩⟩
    | .error f => exact ends

end Loops

/-! ## The whole cycle -/

/-- The lists that were had name no node and no pod twice. -/
structure Distinct (l : List (Exchange σ)) : Prop where
  nodes : ∀ s ns, ⟨s, .call .listNodes, .ok ns⟩ ∈ l → (ns.map Node.identity).Nodup
  pods : ∀ s ps, ⟨s, .call .listPods, .ok ps⟩ ∈ l → (ps.map Pod.key).Nodup

/-- The bounds that a cycle keeps. -/
structure Bounded (c : Config) (l : List (Exchange σ)) : Prop where
  /-- Every eviction from a degraded node is accepted before the cap is reached. -/
  unspent : ∀ s ns, ⟨s, .call .listNodes, .ok ns⟩ ∈ l → ∀ n ∈ ns, isDegraded c n = true →
    ∀ k < takenFrom n (evictions l), c.isSpent k = false
  /-- A whole cap is not exceeded. -/
  capped : ∀ s ns, ⟨s, .call .listNodes, .ok ns⟩ ∈ l → ∀ n ∈ ns, isDegraded c n = true →
    ∀ cap, c.cap? = some (.whole cap) → (takenFrom n (evictions l) : Int) ≤ cap
  spared : ∀ s ns, ⟨s, .call .listNodes, .ok ns⟩ ∈ l → ∀ n ∈ ns, isDegraded c n = false →
    takenFrom n (evictions l) = 0
  /-- No pod is asked for that is not on a degraded node. -/
  located : ∀ x ∈ evictions l, ∃ s ns n, ⟨s, .call .listNodes, .ok ns⟩ ∈ l ∧ n ∈ ns ∧
    isDegraded c n = true ∧ x.1.node.equals n.name = true
  single : c.isSingle = true → (accepted l).length ≤ 1
  once : ((evictions l).map (·.1.key)).Nodup
  /-- What comes after the answer to a request, or does not. -/
  quiet : ∀ before e after, l = before ++ e :: after → Quiet c before e

/-- A whole cap is not exceeded as long as it was not reached before the last of so many evictions. -/
theorem le_cap {cap : Int} {count : Nat} (hcap : c.cap? = some (.whole cap))
    (unspent : ∀ k < count, c.isSpent k = false) : (count : Int) ≤ cap := by
  cases count with
  | zero =>
      have positive := Option.mem_filter_iff.mp hcap
      simp at positive
      omega
  | succ count =>
      have last := unspent count (Nat.lt_succ_self count)
      simp [ConfigDraft.isSpent, hcap] at last
      omega

theorem bounded_of_evictions (h : evictions l = []) : Bounded c l := by
  refine ⟨?_, ?_, ?_, ?_, ?_, ?_, ?_⟩
  · simp [h, takenFrom]
  · intro s ns hs n hn _ cap hcap
    exact le_cap hcap (by simp [h, takenFrom])
  · simp [h, takenFrom]
  · simp [h]
  · simp [h, accepted]
  · simp [h]
  · rintro before e after rfl
    have none : evictions before = [] := by
      rw [evictions_append, List.append_eq_nil_iff] at h
      exact h.1
    simp [Quiet, none]

/-- After an accepted eviction that ends the cycle no eviction is asked for. -/
theorem evictions_of_quiet {h : List (Exchange σ)} (single : c.isSingle = true)
    (quiet : Throughout (Quiet c) h l) (taken : ∃ x ∈ evictions h, x.2.isOk = true) :
    evictions l = [] := by
  induction l generalizing h with
  | nil => rfl
  | cons e l ih =>
      obtain ⟨x, hx, isOk⟩ := taken
      have none : e.eviction? = none := (quiet.1 x hx).1 (by simp [isFinal, single, isOk])
      have later := ih quiet.2 ⟨x, by simp [hx], isOk⟩
      rw [evictions, List.filterMap_cons_none none]
      exact later

/-- A cycle that is to evict a single pod evicts no second one. -/
theorem length_accepted_le_one {h : List (Exchange σ)} (single : c.isSingle = true)
    (quiet : Throughout (Quiet c) h l) : (accepted l).length ≤ 1 := by
  induction l generalizing h with
  | nil => exact Nat.zero_le 1
  | cons e l ih =>
      by_cases taken : ∃ x ∈ evictions (h ++ [e]), x.2.isOk = true
      · have none := evictions_of_quiet single quiet.2 taken
        have last : accepted (e :: l) = accepted [e] := by
          rw [← List.singleton_append, accepted_append]
          simp [accepted, none]
        rw [last]
        exact Nat.le_trans (List.length_filterMap_le ..) (List.length_filterMap_le ..)
      · have none : accepted [e] = [] := by
          refine List.filterMap_eq_nil_iff.mpr fun x hx => ?_
          obtain ⟨p, a⟩ := x
          cases a with
          | ok u => exact absurd ⟨(p, .ok u), by simp [hx], rfl⟩ taken
          | error f => rfl
        rw [← List.singleton_append, accepted_append, none]
        exact ih quiet.2

theorem Relieves.bounded {nodes ds done : List Node} (h : Relieves c nodes pods done l)
    (hds : degraded c nodes = .ok ds) (hdone : done <+: ds) (distinct : Distinct l) :
    Bounded c l := by
  obtain ⟨-, rfl⟩ := Fault.ifKey_eq_ok_iff.mp hds
  obtain ⟨⟨⟨s, hs⟩, ⟨s', hs'⟩, only⟩, quiet, shares⟩ := h
  have sub : done.Sublist nodes := hdone.sublist.trans List.filter_sublist
  have identities := distinct.nodes s nodes hs
  have marked : ∀ n ∈ done, isDegraded c n = true := fun n hn =>
    (List.mem_filter.mp (hdone.subset hn)).2
  have elsewhere (n : Node) (hn : n ∈ nodes) (past : n ∉ done) : takenFrom n (evictions l) = 0 := by
    refine shares.spared fun same => past ?_
    obtain ⟨m, hm, same⟩ := List.mem_map.mp same
    obtain rfl := List.inj_on_of_nodup_map identities (sub.subset hm) hn same
    exact hm
  have unspent (n : Node) (hn : n ∈ nodes) : ∀ k < takenFrom n (evictions l), c.isSpent k = false := by
    by_cases past : n ∈ done
    · exact shares.capped (identities.sublist (sub.map _)) past
    · simp [elsewhere n hn past]
  refine ⟨?_, ?_, ?_, ?_, fun single => length_accepted_le_one single quiet, ?_, ?_⟩
  · intro s ns hns n hn _
    exact unspent n (only s ns hns ▸ hn)
  · intro s ns hns n hn _ cap hcap
    exact le_cap hcap (unspent n (only s ns hns ▸ hn))
  · intro s ns hns n hn healthy
    refine elsewhere n (only s ns hns ▸ hn) fun past => ?_
    rw [marked n past] at healthy
    cases healthy
  · intro x hx
    obtain ⟨n, hn, located⟩ := shares.located x hx
    exact ⟨s, nodes, n, hs, sub.subset hn, marked n hn, located⟩
  · have candidates := nodup_candidates (identities.sublist (sub.map _)) (distinct.pods s' pods hs')
    obtain ⟨asked, perm, sublist⟩ := shares.subperm
    have requests := (perm.map Pod.key).nodup_iff.mp (candidates.sublist (sublist.map Pod.key))
    rwa [List.map_map] at requests
  · rintro before e after rfl
    exact quiet.of_append_cons

/-- In any world in which lists name nothing twice, a cycle keeps its bounds. -/
theorem evictions_bounded (c : Config) (profiles : ProfileStore) (w : World σ) (s : σ)
    (distinct : Distinct ((reconcile c profiles).run w s).exchanges) :
    Bounded c ((reconcile c profiles).run w s).exchanges := by
  suffices (reconcile c profiles).Ensures w [] s fun _ l _ => Distinct l → Bounded c l from
    this distinct
  apply reconcile_ensures
  intro k o s' hk hl
  have none : evictions ([] ++ k) = [] := evictions_of_reads hk.reads
  match o, hk with
  | .error f, _ => exact fun _ => bounded_of_evictions none
  | .ok (.inl r), _ => exact fun _ => bounded_of_evictions none
  | .ok (.inr (ds, pods)), hk =>
    obtain ⟨nodes, hds, listed⟩ := hk.listed
    rw [Leaves]
    refine (relieves_relieve (unfinished_of_evictions none) ⟨listed, ?_, ?_⟩).mono ?_
    · exact throughout_quiet none (by simp [evictions])
    · exact none ▸ .none
    · rintro o l s ⟨done, hdone, relieves⟩ distinct
      exact relieves.bounded hds hdone distinct

/-! ## A run -/

/-- What is asked for in a world with a cluster is shared among its degraded nodes. -/
theorem shares_of_hosts {view : σ → Cluster} {w : World σ} (hosts : w.Hosts view) (c : Config)
    (profiles : ProfileStore) (s : σ) :
    evictions ((reconcile c profiles).run w s).exchanges = [] ∨
      ∃ ds done, degraded c (view s).nodes.items = .ok ds ∧ done <+: ds ∧
        Shares c (view s).pods.items done (evictions ((reconcile c profiles).run w s).exchanges) := by
  change (reconcile c profiles).Ensures w [] s fun _ l _ => evictions l = [] ∨
    ∃ ds done, degraded c (view s).nodes.items = .ok ds ∧ done <+: ds ∧
      Shares c (view s).pods.items done (evictions l)
  apply reconcile_ensures
  intro k o s' hk hl
  have none : evictions ([] ++ k) = [] := evictions_of_reads hk.reads
  match o, hk with
  | .error f, _ => exact .inl none
  | .ok (.inl r), _ => exact .inl none
  | .ok (.inr (ds, pods)), hk =>
    obtain ⟨nodes, hds, listed⟩ := hk.listed
    obtain ⟨s₀, hs₀⟩ := listed.nodesListed
    obtain ⟨s₁, hs₁⟩ := listed.podsListed
    obtain rfl := Cluster.of_listNodes (hosts.answer_of_mem_reads hk.reads hl hs₀)
    obtain rfl := Cluster.of_listPods (hosts.answer_of_mem_reads hk.reads hl hs₁)
    rw [Leaves]
    refine (relieves_relieve (unfinished_of_evictions none) ⟨listed, ?_, ?_⟩).mono ?_
    · exact throughout_quiet none (by simp [evictions])
    · exact none ▸ .none
    · rintro o l s ⟨done, hdone, relieves⟩
      exact .inr ⟨ds, done, hds, hdone, relieves.shares⟩

/-- The registers of a cluster hold nothing twice. -/
theorem distinct_of_hosts {view : σ → Cluster} {w : World σ} {s s' : σ} (hosts : w.Hosts view)
    (h : w.Leads s l s') : Distinct l := by
  have answered {s₀ : σ} {call : Call} {r} (he : ⟨s₀, .call call, r⟩ ∈ l) :
      (Cluster.answer call (view s₀)).1 = r :=
    (congrArg Prod.fst (hosts.call call s₀)).trans (h.reply_eq he).symm
  constructor
  · intro s₀ ns he
    rw [Cluster.of_listNodes (answered he)]
    exact (view s₀).nodes.nodup
  · intro s₀ ps he
    rw [Cluster.of_listPods (answered he)]
    exact (view s₀).pods.nodup

theorem distinct_of_leads {l : List (Exchange (Scene Cluster))} {s s' : Scene Cluster}
    (h : Cluster.world.Leads s l s') : Distinct l :=
  distinct_of_hosts Cluster.hosts h

namespace Sample

/-- At most two pods of every node. -/
def sweep : Config :=
  ⟨{ nodeCap := .int 2, single := .bool false, evictUnprofiled := .bool true }, by decide, by decide⟩

end Sample

open Sample in
theorem evictions_bounded_sample :
    Distinct ((reconcile sweep Sample.profiles).run Cluster.world scene).exchanges ∧
      Bounded sweep ((reconcile sweep Sample.profiles).run Cluster.world scene).exchanges :=
  ⟨distinct_of_leads (.run ..), evictions_bounded _ _ _ _ (distinct_of_leads (.run ..))⟩

end Cycle

end NodeRelief
