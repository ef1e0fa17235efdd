import NodeRelief.Proofs.Cycle.Chronicle
import NodeRelief.Proofs.Cycle.Drain
import NodeRelief.Proofs.Cycle.Prefix

/-! # What a cycle takes of a budget

The gate looks at the budgets before every eviction and lets none pass that is used up; a cycle keeps no
count of its own. So a budget is kept where its lists tell when it is used up. The budgets of a cluster in
memory stay as they are, and there a cycle keeps to a budget only if it cannot come to take more. -/

namespace NodeRelief

variable {σ : Type}

/-- Whether a budget is about a pod: it is of the pod's namespace and selects it. -/
def Budget.covers (b : Budget) (p : Pod) : Bool :=
  b.ns.equals p.ns && decide (selects b.selector p.labels = .ok true)

/-- The namespace and the budgets of a list of budgets that was had. -/
def Exchange.budgets? : Exchange σ → Option (Document × List Budget)
  | ⟨_, .call (.listBudgets ns), .ok bs⟩ => some (ns, bs)
  | _ => none

namespace World.Hosts

variable {w : World σ} {view : σ → Cluster} {l : List (Exchange σ)} {s s' : σ}

/-- Nothing that is asked of a cluster changes its budgets. -/
theorem budgets_reply (hosts : w.Hosts view) (q : Query) (s : σ) :
    (view (w.reply q s).2).budgets = (view s).budgets := by
  cases q with
  | call call =>
      have answered : (Cluster.answer call (view s)).2 = view (w.reply (.call call) s).2 :=
        congrArg Prod.snd (hosts.call call s)
      rw [← answered]
      cases call with
      | evict p g => exact (Cluster.evict_frame (view s) p).1
      | annotateOwner o entries => exact (Cluster.patchOwner_frame (view s) o entries).1
      | _ => rfl
  | _ => rw [hosts.other _ s rfl]

theorem budgets_of_leads (hosts : w.Hosts view) (hl : w.Leads s l s') :
    ∀ e ∈ l, (view e.before).budgets = (view s).budgets := by
  induction l generalizing s with
  | nil => simp
  | cons e l ih =>
      obtain ⟨he, hl⟩ := hl
      intro x hx
      rcases List.mem_cons.mp hx with rfl | hx
      · rw [he]
      · exact (ih hl x hx).trans (hosts.budgets_reply ..)

end World.Hosts

namespace Cycle

variable {c : Config} {profiles : ProfileStore} {n : Node} {p : Pod} {pods : List Pod} {b : Budget} {d : Nat}
  {h l : List (Exchange σ)} {rs : List (Pod × Except Fault Unit)}

/-! ## What is taken -/

/-- How many evictions of pods that a budget covers are accepted among requests. -/
def spentOn (b : Budget) (rs : List (Pod × Except Fault Unit)) : Nat :=
  rs.countP fun x => x.2.isOk && b.covers x.1

@[simp] theorem spentOn_append (b : Budget) (rs part : List (Pod × Except Fault Unit)) :
    spentOn b (rs ++ part) = spentOn b rs + spentOn b part :=
  List.countP_append

theorem spentOn_le_countP_isOk (b : Budget) (rs : List (Pod × Except Fault Unit)) :
    spentOn b rs ≤ rs.countP (·.2.isOk) := by
  refine List.countP_mono_left fun x _ taken => ?_
  rw [Bool.and_eq_true] at taken
  exact taken.1

/-- One exchange takes one pod at most, and only if it asks for its eviction. -/
theorem spentOn_singleton (b : Budget) (e : Exchange σ) :
    spentOn b (evictions [e]) ≤ 1 ∧ (spentOn b (evictions [e]) ≠ 0 →
      ∃ p, e.query.evictee? = some p ∧ b.covers p = true) := by
  rw [e.evictee?_eq]
  cases he : e.eviction? with
  | none => simp [spentOn, evictions, he]
  | some x =>
      obtain ⟨p, a⟩ := x
      have asked : evictions [e] = [(p, a)] := by simp [evictions, he]
      rw [asked]
      refine ⟨List.countP_le_length, fun taken => ⟨p, rfl, ?_⟩⟩
      by_contra uncovered
      simp [spentOn, uncovered] at taken

/-! ## Lists that keep count -/

/-- Before an eviction the budgets were listed, and none of them forbids it. -/
def Cleared (h : List (Exchange σ)) (e : Exchange σ) : Prop :=
  ∀ p, e.query.evictee? = some p → ∃ k s bs, h = k ++ [⟨s, .call (.listBudgets p.ns), .ok bs⟩] ∧
    Admission.violated? p bs = .ok none

theorem cleared_of_evictee? (none : ∀ e ∈ l, e.query.evictee? = none) : Throughout Cleared h l := by
  refine .of_forall fun e he _ p asked => ?_
  rw [none e he] at asked
  cases asked

theorem CoolsDown.evictee? {owner : Option Owner} {u : Except Fault Unit} (hl : CoolsDown c owner l u) :
    ∀ e ∈ l, e.query.evictee? = none := by
  intro e he
  rw [e.evictee?_eq, e.eviction?_of_isPlain (hl.plain e he)]
  rfl

theorem Attempts.evictee? {owner : Option Owner} {v : Except Fault Verdict}
    (hl : Attempts c n p owner l v) :
    ∃ s a l', l = ⟨s, .call (.evict p c.gracePeriod), a⟩ :: l' ∧ ∀ e ∈ l', e.query.evictee? = none := by
  rcases hl.asks with ⟨s, a, l', hl, reads⟩ | ⟨s, s', l', u, hl, cools⟩
  · exact ⟨s, a, l', hl, fun e he => Query.evictee?_of_isRead (reads e he)⟩
  · refine ⟨s, _, _, hl, fun e he => ?_⟩
    rcases List.mem_cons.mp he with rfl | he
    · rfl
    · exact cools.evictee? e he

/-- A visit asks for no eviction that the budgets forbid. -/
theorem Visits.cleared {v : Except Fault Verdict} (hl : Visits c profiles n p l v)
    (h : List (Exchange σ)) : Throughout Cleared h l := by
  rcases hl.reads_or_attempts with ⟨reads, -⟩ | ⟨k, s, bs, owner, k', rfl, reads, free, ha⟩
  · exact cleared_of_evictee? fun e he => Query.evictee?_of_isRead (reads e he)
  · obtain ⟨s', a, k', rfl, silent⟩ := ha.evictee?
    refine Throughout.append_iff.mpr ⟨?_, nofun, ?_, cleared_of_evictee? silent⟩
    · exact cleared_of_evictee? fun e he => Query.evictee?_of_isRead (reads e he)
    · rintro q ⟨⟩
      exact ⟨h ++ k, s, bs, rfl, free⟩

/-- In any world a cycle asks for no eviction that the budgets forbid. -/
theorem cleared_reconcile (c : Config) (profiles : ProfileStore) (w : World σ) (s : σ) :
    Throughout Cleared [] ((reconcile c profiles).run w s).exchanges := by
  refine (chronicle_reconcile c profiles w s).throughout ?_ fun v hv h => hv.cleared h
  exact fun k o hk => cleared_of_evictee? fun e he => Query.evictee?_of_isRead (hk.reads e he)

/-- When `d` pods of a budget are evicted, lists of its namespace tell that it is used up. -/
def Reports (b : Budget) (d : Nat) (h : List (Exchange σ)) (e : Exchange σ) : Prop :=
  d ≤ spentOn b (evictions h) → ∀ x ∈ e.budgets?, b.ns.equals x.1 = true →
    ∃ used ∈ x.2, used.selector = b.selector ∧ used.allowed.agrees (.int 0) = true

instance (h : List (Exchange σ)) (e : Exchange σ) : Decidable (Reports b d h e) :=
  inferInstanceAs (Decidable (_ ≤ _ → ∀ x ∈ e.budgets?, _ → ∃ used ∈ x.2, _ ∧ _))

/-- No pod is taken of a budget that the last list tells is used up. -/
theorem uncovered_of_cleared {e : Exchange σ} (reports : Throughout (Reports b d) [] l)
    (cleared : Cleared l e) (full : d ≤ spentOn b (evictions l)) : spentOn b (evictions [e]) = 0 := by
  by_contra taken
  obtain ⟨p, asked, covers⟩ := (spentOn_singleton b e).2 taken
  obtain ⟨k, s, bs, rfl, free⟩ := cleared p asked
  simp only [Budget.covers, Bool.and_eq_true, decide_eq_true_eq] at covers
  -- The budgets were listed after the last pod was taken, so the list tells.
  have before : spentOn b (evictions (k ++ [⟨s, .call (.listBudgets p.ns), .ok bs⟩])) =
      spentOn b (evictions k) := by
    rw [evictions_append, spentOn_append]
    rfl
  obtain ⟨used, hused, selector, none⟩ :=
    reports.of_append_cons (before ▸ full) (p.ns, bs) rfl covers.1
  have left := Admission.of_violated?_eq_none free used hused (selector ▸ covers.2)
  rw [none] at left
  cases left

theorem spentOn_le_of_reports (reports : Throughout (Reports b d) [] l)
    (cleared : Throughout Cleared [] l) : spentOn b (evictions l) ≤ d := by
  induction l using List.reverseRecOn with
  | nil => exact Nat.zero_le d
  | append_singleton l e ih =>
      obtain ⟨reports, -⟩ := Throughout.append_iff.mp reports
      obtain ⟨cleared, last, -⟩ := Throughout.append_iff.mp cleared
      have past := ih reports cleared
      rw [evictions_append, spentOn_append]
      -- As long as there is room one more pod may go; then the last list forbids it.
      rcases Nat.lt_or_ge (spentOn b (evictions l)) d with room | full
      · have one := (spentOn_singleton b e).1
        omega
      · rw [uncovered_of_cleared reports last full]
        exact past

/-! ## Budgets of a cluster in memory -/

/-- A budget that is used up is told to be, since nothing changes it. -/
theorem reports_of_exhausted {w : World σ} {view : σ → Cluster} {s s' : σ} (hosts : w.Hosts view)
    (mem : b ∈ (view s).budgets) (exhausted : b.allowed.agrees (.int 0) = true) (hl : w.Leads s l s') :
    Throughout (Reports b d) h l := by
  refine .of_forall fun e he _ _ x hx same => ?_
  have budgets := hosts.budgets_of_leads hl e he
  have answered := hl.reply_eq he
  obtain ⟨s₀, q, r⟩ := e
  cases q with
  | call call =>
      cases call with
      | listBudgets ns =>
          cases r with
          | error f => cases hx
          | ok bs =>
              cases hx
              have listed := (congrArg Prod.fst (hosts.call (.listBudgets ns) s₀)).trans answered.symm
              refine ⟨b, ?_, rfl, exhausted⟩
              rw [Cluster.of_listBudgets listed, budgets]
              exact List.mem_filter.mpr ⟨mem, same⟩
      | _ => cases hx
  | _ => cases hx

theorem spentOn_le_accepted (b : Budget) (l : List (Exchange σ)) :
    spentOn b (evictions l) ≤ (accepted l).length := by
  rw [accepted, List.length_filterMap_eq_countP]
  refine List.countP_mono_left fun x _ taken => ?_
  obtain ⟨p, a⟩ := x
  cases a with
  | ok u => rfl
  | error f => cases taken

/-- How many pods of a budget can be taken from nodes: from each node as many as it has candidates, but not
more than the cap. -/
def reach (b : Budget) (cap : Nat) (pods : List Pod) (nodes : List Node) : Nat :=
  (nodes.map fun n => min cap ((candidates n pods).countP b.covers)).sum

theorem reach_append (b : Budget) (cap : Nat) (pods : List Pod) (nodes nodes' : List Node) :
    reach b cap pods (nodes ++ nodes') = reach b cap pods nodes + reach b cap pods nodes' := by
  simp [reach]

theorem Shares.spentOn_le {cap : Nat} {done : List Node} (h : Shares c pods done rs)
    (spent : c.isSpent cap = true) : spentOn b rs ≤ reach b cap pods done := by
  induction h with
  | none => exact Nat.zero_le _
  | @more done rs n part h hpart unspent ih =>
      have capped : spentOn b part ≤ cap := by
        by_contra beyond
        have below := unspent cap (Nat.lt_of_lt_of_le (Nat.not_le.mp beyond) (spentOn_le_countP_isOk b part))
        rw [spent] at below
        cases below
      have covered : spentOn b part ≤ (candidates n pods).countP b.covers := by
        calc spentOn b part
          _ ≤ part.countP (b.covers ·.1) := List.countP_mono_left fun x _ taken => by simp_all
          _ = (part.map Prod.fst).countP b.covers := by rw [List.countP_map]; rfl
          _ ≤ _ := hpart.countP_le b.covers
      rw [spentOn_append, reach_append]
      exact Nat.add_le_add ih (by simp [reach, capped, covered])

/-- Why a cycle cannot take more than `d` pods of a budget from a cluster, even though nobody counts. -/
inductive Suffices (c : Config) (b : Budget) (d : Nat) (cl : Cluster) : Prop where
  | exhausted (none : d = 0)
  | single (single : c.isSingle = true)
  | capped {cap} (spent : c.isSpent cap = true)
      (within : reach b cap cl.pods.items (cl.nodes.items.filter (isDegraded c)) ≤ d)

section Run

variable {w : World σ} {view : σ → Cluster} {s : σ}

/-- A cycle that is to evict a single pod takes one at most. -/
theorem spentOn_le_one (hosts : w.Hosts view) (single : c.isSingle = true) :
    spentOn b (evictions ((reconcile c profiles).run w s).exchanges) ≤ 1 := by
  have bounded := evictions_bounded c profiles w s (distinct_of_hosts hosts (.run ..))
  exact (spentOn_le_accepted b _).trans (bounded.single single)

theorem spentOn_le_reach (hosts : w.Hosts view) {cap : Nat} (spent : c.isSpent cap = true) :
    spentOn b (evictions ((reconcile c profiles).run w s).exchanges) ≤
      reach b cap (view s).pods.items ((view s).nodes.items.filter (isDegraded c)) := by
  rcases shares_of_hosts hosts c profiles s with none | ⟨ds, done, hds, ⟨rest, hdone⟩, shares⟩
  · rw [none]
    exact Nat.zero_le _
  · obtain ⟨-, rfl⟩ := Fault.ifKey_eq_ok_iff.mp hds
    rw [← hdone, reach_append]
    exact (shares.spentOn_le spent).trans (Nat.le_add_right ..)

/-- Where lists of budgets tell when `d` pods of a budget are evicted, no more are. In a cluster in memory,
where they do not, no more are evicted than a budget allows if it allows none, if the cycle is to evict a
single pod, or if that many cannot be had under the cap. -/
theorem allowance_respected (c : Config) (profiles : ProfileStore) (b : Budget) (d : Nat) :
    (∀ {σ : Type} (w : World σ) (s : σ),
      Throughout (Reports b d) [] ((reconcile c profiles).run w s).exchanges →
        spentOn b (evictions ((reconcile c profiles).run w s).exchanges) ≤ d) ∧
    ∀ {σ : Type} (w : World σ) (view : σ → Cluster) (s : σ), w.Hosts view → b ∈ (view s).budgets →
      b.allowed.agrees (.int d) = true → Suffices c b d (view s) →
        spentOn b (evictions ((reconcile c profiles).run w s).exchanges) ≤ d := by
  have counted {σ : Type} (w : World σ) (s : σ)
      (reports : Throughout (Reports b d) [] ((reconcile c profiles).run w s).exchanges) :=
    spentOn_le_of_reports reports (cleared_reconcile c profiles w s)
  refine ⟨counted, fun w view s hosts mem allowed enough => ?_⟩
  have exhausted (none : d = 0) :
      spentOn b (evictions ((reconcile c profiles).run w s).exchanges) ≤ d := by
    subst none
    exact counted w s (reports_of_exhausted hosts mem allowed (.run ..))
  cases enough with
  | exhausted none => exact exhausted none
  | single single =>
      rcases Nat.eq_zero_or_pos d with none | some
      · exact exhausted none
      · exact (spentOn_le_one hosts single).trans some
  | capped spent within => exact (spentOn_le_reach hosts spent).trans within

end Run

namespace Sample

/-- One pod of the namespace may be evicted. -/
def webBudget : Budget := ⟨"web-pdb", "shop", some ⟨.empty, []⟩, .int 1⟩

/-- Two pods that nothing holds back but one budget. -/
def budgeted : Scene Cluster := { loose with cluster := { loose.cluster with budgets := [webBudget] } }

/-- What is left of a budget when a pod is evicted. -/
def spend (p : Pod) (b : Budget) : Budget :=
  match b.allowed with
  | .int allowed => if b.covers p then { b with allowed := .int (allowed - 1) } else b
  | _ => b

/-- A cluster that counts what is evicted. -/
def counting : Backend Cluster
  | .evict p _, cl =>
    match cl.evict p with
    | (.ok (), cl) => (.ok (), { cl with budgets := cl.budgets.map (spend p) })
    | (.error f, cl) => (.error f, cl)
  | call, cl => Cluster.answer call cl

end Sample

open Sample in
/-- A cluster in memory does not count: a cycle that may evict many pods evicts both, although the budget
allows one. -/
theorem budget_overdrawn :
    ¬ ∀ (c : Config) (profiles : ProfileStore) (s : Scene Cluster) (b : Budget) (d : Nat),
      b ∈ s.cluster.budgets → (∀ selector ∈ b.selector, selector.flaw? = none) → b.allowed = .int d →
        spentOn b (evictions ((reconcile c profiles).run Cluster.world s).exchanges) ≤ d := by
  intro kept
  have one := kept sweep Sample.profiles budgeted webBudget 1 (List.mem_singleton_self _)
    (by decide +kernel) rfl
  have two : spentOn webBudget
      (evictions ((reconcile sweep Sample.profiles).run Cluster.world budgeted).exchanges) = 2 := by
    decide +kernel
  omega

open Sample in
/-- Where evictions are counted the cycle evicts one of the two pods, and in memory a cycle that is to evict
a single pod does as well. -/
theorem allowance_respected_sample :
    ((reconcile sweep Sample.profiles).run (Scene.world counting) budgeted).outcome =
        .ok ⟨standardDelay, ["shop/web-1"], false, false, none⟩ ∧
      spentOn webBudget
        (evictions ((reconcile sweep Sample.profiles).run (Scene.world counting) budgeted).exchanges) ≤ 1 ∧
      spentOn webBudget
        (evictions ((reconcile config Sample.profiles).run Cluster.world budgeted).exchanges) ≤ 1 := by
  have reports : Throughout (Reports webBudget 1) []
      ((reconcile sweep Sample.profiles).run (Scene.world counting) budgeted).exchanges := by
    decide +kernel
  obtain ⟨counted, -⟩ := allowance_respected sweep Sample.profiles webBudget 1
  obtain ⟨-, uncounted⟩ := allowance_respected config Sample.profiles webBudget 1
  refine ⟨by decide +kernel, counted _ _ reports, ?_⟩
  exact uncounted Cluster.world Scene.cluster budgeted Cluster.hosts (List.mem_singleton_self _) rfl
    (.single rfl)

end Cycle

end NodeRelief
