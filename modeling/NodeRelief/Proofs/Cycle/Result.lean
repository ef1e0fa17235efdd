import NodeRelief.Proofs.Cycle.Bounds
import NodeRelief.Proofs.Cycle.Chronicle
import NodeRelief.Proofs.Cycle.Containment

/-! # What the result of a cycle says

The result names the evicted pods in order, says how the cycle ended in one way at most, and asks for the
delay that goes with it. -/

namespace NodeRelief.Cycle

variable {σ : Type} {c : Config} {profiles : ProfileStore} {l : List (Exchange σ)} {r : CycleResult}

/-! ## Flags and delay -/

/-- The delay that goes with a result. -/
def delay (c : Config) (r : CycleResult) : Duration :=
  if r.rateLimited then c.afterRateLimit
  else if r.cancelled || r.error.isSome || r.evicted.isEmpty then c.recheckInterval
  else c.afterEviction

/-- A result that agrees with itself. -/
structure Coherent (c : Config) (r : CycleResult) : Prop where
  /-- At most one of the three is set. -/
  single : [r.rateLimited, r.cancelled, r.error.isSome].count true ≤ 1
  requeueAfter : r.requeueAfter = delay c r

theorem coherent_settled (c : Config) (evicted : List String) : Coherent c (settled c evicted) := by
  by_cases none : evicted = []
  · subst none
    exact ⟨by simp [settled, recheck], rfl⟩
  · rw [settled_of_ne_nil none]
    exact ⟨by simp, by simp [delay, none]⟩

theorem coherent_cancelled (c : Config) (evicted : List String) :
    Coherent c (recheck c evicted true none) :=
  ⟨by simp [recheck], rfl⟩

theorem coherent_failed (c : Config) (message : String) :
    Coherent c (recheck c [] false (some message)) :=
  ⟨by simp [recheck], rfl⟩

theorem coherent_rateLimited (c : Config) (evicted : List String) :
    Coherent c ⟨c.afterRateLimit, evicted, true, false, none⟩ :=
  ⟨by simp, rfl⟩

theorem Opens.coherent (h : Opens c profiles l (.ok (.inl r))) : Coherent c r := by
  cases h with
  | unprofiled hp => exact coherent_settled c []
  | cancelled s => exact coherent_cancelled c []
  | nodesUnlisted s s' message => exact coherent_failed c message
  | healthy hd s s' => exact coherent_settled c []
  | stopped hd hk s s' s'' => exact coherent_cancelled c []
  | podsUnlisted hd hk s s' s'' s₃ message => exact coherent_failed c message

theorem Chronicle.coherent (h : Chronicle c profiles l (.ok r)) : Coherent c r := by
  cases h with
  | closed hk => exact hk.coherent
  | visited hk hvs ho =>
      cases ho with
      | finished passing => exact coherent_settled ..
      | rateLimited hvs limited => exact coherent_rateLimited ..
      | cancelled hvs cancelled => exact coherent_cancelled ..

/-! ## Evictions -/

/-- Of the requests only the accepted ones are told. -/
theorem accepted_sublist (l : List (Exchange σ)) :
    (accepted l).Sublist ((evictions l).map (·.1.key)) := by
  rw [accepted]
  induction evictions l with
  | nil => exact .slnil
  | cons x rest ih =>
      obtain ⟨p, a⟩ := x
      cases a with
      | ok u => exact ih.cons_cons _
      | error f => exact ih.cons _

/-- What a result has to say of the exchanges of the cycle. -/
structure Truthful (c : Config) (r : CycleResult) (l : List (Exchange σ)) : Prop extends
    Coherent c r where
  /-- The evicted pods are those whose evictions were accepted, in the order of acceptance. -/
  evicted : r.evicted = accepted l
  /-- None of them is told twice if the lists name nothing twice. -/
  once : Distinct l → r.evicted.Nodup
  rateLimited : r.rateLimited = true ↔ ∃ x, (evictions l).getLast? = some x ∧ isRateLimited x.2 = true
  /-- After an error nothing was asked for that changes the cluster. -/
  quiet : r.error.isSome = true → r.evicted = [] ∧ ∀ e ∈ l, e.query.isRead = true

theorem Balances.last_iff (h : Balances r l) :
    r.rateLimited = true ↔ ∃ x, (evictions l).getLast? = some x ∧ isRateLimited x.2 = true := by
  rw [h.rateLimited]
  constructor
  · rintro ⟨x, hx, limited⟩
    obtain ⟨a, b, split⟩ := List.append_of_mem hx
    obtain rfl := h.last a x b split limited
    exact ⟨x, by simp [split], limited⟩
  · rintro ⟨x, hx, limited⟩
    exact ⟨x, List.mem_of_getLast? hx, limited⟩

/-- In any world the result of a cycle tells the truth. In a cluster in memory no evicted pod is told
twice. -/
theorem result_truthful (c : Config) (profiles : ProfileStore) :
    (∀ {σ : Type} (w : World σ) (s : σ) (r : CycleResult),
      ((reconcile c profiles).run w s).outcome = .ok r →
        Truthful c r ((reconcile c profiles).run w s).exchanges) ∧
      ∀ (s : Scene Cluster) (r : CycleResult),
        ((reconcile c profiles).run Cluster.world s).outcome = .ok r → r.evicted.Nodup := by
  have truthful {σ : Type} (w : World σ) (s : σ) (r : CycleResult)
      (hr : ((reconcile c profiles).run w s).outcome = .ok r) :
      Truthful c r ((reconcile c profiles).run w s).exchanges := by
    have closes := closes_reconcile c profiles w s
    have chronicle := chronicle_reconcile c profiles w s
    rw [hr] at closes chronicle
    have balances := closes.1
    refine ⟨chronicle.coherent, balances.evicted, fun distinct => ?_, balances.last_iff, fun failed => ?_⟩
    · rw [balances.evicted]
      exact (evictions_bounded c profiles w s distinct).once.sublist (accepted_sublist _)
    · have reads := balances.quiet failed
      refine ⟨?_, reads⟩
      rw [balances.evicted, accepted, evictions_of_reads reads]
      rfl
  refine ⟨truthful, fun s r hr => ?_⟩
  exact (truthful Cluster.world s r hr).once (distinct_of_leads (.run ..))

open Sample in
/-- A rate limit ends the first cycle after an eviction, the second is through with its nodes. -/
theorem result_truthful_sample :
    (∃ r, ((reconcile patientConfig Sample.profiles).run Client.world failingScene).outcome = .ok r ∧
      r.evicted = ["shop/web-2"] ∧ r.rateLimited = true ∧
      Truthful patientConfig r
        ((reconcile patientConfig Sample.profiles).run Client.world failingScene).exchanges) ∧
    ∃ r, ((reconcile sweep Sample.profiles).run Cluster.world scene).outcome = .ok r ∧
      r.evicted = ["shop/web-1", "shop/web-2"] ∧ r.evicted.Nodup := by
  have limited : ((reconcile patientConfig Sample.profiles).run Client.world failingScene).outcome =
      .ok ⟨standardBackoff, ["shop/web-2"], true, false, none⟩ := by decide +kernel
  have finished : ((reconcile sweep Sample.profiles).run Cluster.world scene).outcome =
      .ok ⟨standardDelay, ["shop/web-1", "shop/web-2"], false, false, none⟩ := by decide +kernel
  obtain ⟨truthful, -⟩ := result_truthful patientConfig Sample.profiles
  obtain ⟨-, once⟩ := result_truthful sweep Sample.profiles
  exact ⟨⟨_, limited, rfl, rfl, truthful _ _ _ limited⟩, _, finished, rfl, once _ _ finished⟩

end NodeRelief.Cycle
