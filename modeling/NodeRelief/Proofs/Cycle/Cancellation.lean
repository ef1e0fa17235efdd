import NodeRelief.Proofs.Cycle.Bounds
import NodeRelief.Proofs.Cycle.Chronicle
import NodeRelief.Proofs.Cycle.Progress

/-! # How a cycle heeds the cancel token

A cycle looks at the token before every candidate, and finding it set is the last thing that it does. It does
not look again before it asks for an eviction, so a token that becomes set while a candidate is weighed does
not keep that candidate from being evicted; no other eviction is asked for from then on. -/

namespace NodeRelief

variable {σ : Type}

/-- What a look at the cancel token showed. -/
def Exchange.look? : Exchange σ → Option Bool
  | ⟨_, .cancelled, b⟩ => some b
  | _ => none

/-- Queries between the look at the token and the request for the eviction of an admitted candidate: for the
time, for owners and for budgets. -/
def Query.weighs : Query → Bool
  | .clock | .call (.readOwner _) | .call (.listBudgets _) => true
  | _ => false

theorem Exchange.weighs_of_eviction? {e : Exchange σ} (h : e.eviction? ≠ none) :
    e.query.weighs = false := by
  simp only [eviction?] at h
  split at h
  · rfl
  · exact absurd rfl h

theorem Exchange.look?_of_eviction? {e : Exchange σ} (h : e.eviction? ≠ none) : e.look? = none := by
  simp only [eviction?] at h
  split at h
  · rfl
  · exact absurd rfl h

namespace Cycle

variable {c : Config} {profiles : ProfileStore} {n : Node} {p : Pod} {h k l : List (Exchange σ)}
  {e : Exchange σ}

/-! ## Weighing a candidate -/

/-- A candidate is being weighed: the token was looked at and was not set, and nothing but the time, owners
and budgets was asked for since. -/
def Weighing (h : List (Exchange σ)) : Prop :=
  ∃ k s m, h = k ++ ⟨s, .cancelled, false⟩ :: m ∧ ∀ e ∈ m, e.query.weighs = true

namespace Weighing

theorem append (hh : Weighing h) (hk : ∀ e ∈ k, e.query.weighs = true) : Weighing (h ++ k) := by
  obtain ⟨k', s, m, rfl, hm⟩ := hh
  refine ⟨k', s, m ++ k, by simp, fun e he => ?_⟩
  rcases List.mem_append.mp he with he | he
  · exact hm e he
  · exact hk e he

/-- A candidate that is being weighed after an exchange has just begun to be, or was weighed before it. -/
theorem of_concat (hh : Weighing (h ++ [e])) :
    e.look? = some false ∨ Weighing h ∧ e.query.weighs = true := by
  obtain ⟨k, s, m, split, hm⟩ := hh
  rcases List.eq_nil_or_concat' m with rfl | ⟨m, x, rfl⟩
  · obtain ⟨-, last⟩ := List.append_inj' split rfl
    cases last
    exact .inl rfl
  · rw [← List.cons_append, ← List.append_assoc] at split
    obtain ⟨rfl, last⟩ := List.append_inj' split rfl
    cases last
    refine .inr ⟨⟨k, s, m, rfl, fun y hy => hm y (by simp [hy])⟩, hm e (by simp)⟩

/-- When an eviction was asked for, the candidate is not being weighed any more. -/
theorem not_of_eviction? (asked : e.eviction? ≠ none) : ¬ Weighing (h ++ [e]) := by
  intro weighing
  rcases weighing.of_concat with looked | ⟨-, weighs⟩
  · rw [Exchange.look?_of_eviction? asked] at looked
    cases looked
  · rw [Exchange.weighs_of_eviction? asked] at weighs
    cases weighs

end Weighing

/-- An eviction is asked for only of a candidate that is being weighed. -/
def Weighed (h : List (Exchange σ)) (e : Exchange σ) : Prop := e.eviction? ≠ none → Weighing h

theorem weighed_of_evictions (hl : evictions l = []) : Throughout Weighed h l := by
  refine .of_forall fun e he k asked => ?_
  exact absurd (List.filterMap_eq_nil_iff.mp hl e he) asked

theorem weighs_of_knows {owner : Option Owner} (hl : Admission.Knows p l owner) :
    ∀ e ∈ l, e.query.weighs = true := by
  intro e he
  obtain ⟨id, hq⟩ := hl.reads e he
  rw [hq]
  rfl

theorem Attempts.evictions {owner : Option Owner} {v : Except Fault Verdict}
    (ha : Attempts c n p owner l v) : ∃ s a l', l = ⟨s, .call (.evict p c.gracePeriod), a⟩ :: l' ∧
      NodeRelief.evictions l' = [] := by
  rcases ha.asks with ⟨s, a, l', rfl, reads⟩ | ⟨s, s', l', u, rfl, hl'⟩
  · exact ⟨s, a, l', rfl, evictions_of_reads reads⟩
  · exact ⟨s, .ok (), _, rfl, hl'.plain.evictions⟩

theorem Visits.weighed {v : Except Fault Verdict} (hk : Visits c profiles n p k v) :
    Throughout Weighed h k := by
  have inspected {s s' : σ} {now : Instant} {k : List (Exchange σ)} {d : Except Fault Decision}
      (hj : Admission.Judges c.cooldownMark p now k d) :
      evictions (⟨s, .cancelled, false⟩ :: ⟨s', .clock, .ok now⟩ :: k) = [] := by
    refine evictions_of_reads ?_
    simpa [Query.isRead] using fun e he => Query.isRead_of_isInspection (hj.inspects e he)
  cases hk with
  | cancelled s => exact weighed_of_evictions rfl
  | ineligible he s => exact weighed_of_evictions rfl
  | timeless he s s' f => exact weighed_of_evictions rfl
  | unjudged he hj s s' => exact weighed_of_evictions (inspected hj)
  | rejected he hj hd s s' => exact weighed_of_evictions (inspected hj)
  | @admitted now l l' d v he hj hd ha s s' =>
      have weighing : Weighing (h ++ ⟨s, .cancelled, false⟩ :: ⟨s', .clock, .ok now⟩ :: l) := by
        obtain ⟨k, s₀, bs, rfl, hk, -⟩ := hj.of_admitted hd
        refine ⟨h, s, _, rfl, ?_⟩
        simpa [Query.weighs, or_imp, forall_and] using weighs_of_knows hk
      obtain ⟨s₁, a, l', rfl, none⟩ := ha.evictions
      rw [← List.cons_append, ← List.cons_append]
      refine Throughout.append_iff.mpr ⟨weighed_of_evictions (inspected hj), fun _ => weighing, ?_⟩
      exact weighed_of_evictions none

theorem Chronicle.weighed {o : Except Fault CycleResult} (hl : Chronicle c profiles l o) :
    Throughout Weighed [] l := by
  refine hl.throughout ?_ ?_
  · intro k o hk
    exact weighed_of_evictions (evictions_of_reads hk.reads)
  · intro v hv h
    exact Visits.weighed hv

/-! ## Requests after the token was set -/

/-- The exchanges `l` that follow `h` ask for no eviction, or for that of the candidate that is being weighed
and for no other. -/
inductive Ceases (h : List (Exchange σ)) : List (Exchange σ) → Prop where
  | quiet {l : List (Exchange σ)} (hl : evictions l = []) : Ceases h l
  | overtaken {k k' : List (Exchange σ)} {e : Exchange σ} (hh : Weighing h)
      (hk : ∀ x ∈ k, x.query.weighs = true) (he : e.eviction? ≠ none) (hk' : evictions k' = []) :
      Ceases h (k ++ e :: k')

/-- As long as no look shows that the token is not set, weighing leads to one request at most. -/
theorem ceases_of_weighed (hl : Throughout Weighed h l) (set : ∀ e ∈ l, e.look? ≠ some false) :
    Ceases h l := by
  induction l generalizing h with
  | nil => exact .quiet rfl
  | cons e l ih =>
      obtain ⟨weighed, hl⟩ := hl
      have rest := ih hl fun x hx => set x (by simp [hx])
      by_cases asked : e.eviction? = none
      · cases rest with
        | quiet hl =>
            refine .quiet ?_
            rw [evictions, List.filterMap_cons_none asked]
            exact hl
        | @overtaken k x k' hh hk hx hk' =>
            rcases hh.of_concat with looked | ⟨hh, he⟩
            · exact absurd looked (set e (by simp))
            · rw [← List.cons_append]
              exact .overtaken hh (by simpa [he] using hk) hx hk'
      · cases rest with
        | quiet hl => exact .overtaken (k := []) (weighed asked) (by simp) asked hl
        | overtaken hh hk hx hk' => exact absurd hh (Weighing.not_of_eviction? asked)

theorem Ceases.evictions (hl : Ceases h l) (unweighed : ¬ Weighing h) :
    NodeRelief.evictions l = [] := by
  cases hl with
  | quiet hl => exact hl
  | overtaken hh hk he hk' => exact absurd hh unweighed

/-! ## Looks at the token -/

/-- No look showed the token set. -/
def Unset (l : List (Exchange σ)) : Prop := ∀ e ∈ l, e.look? ≠ some true

theorem Unset.append (hl : Unset l) (hk : Unset k) : Unset (l ++ k) := by
  intro e he
  rcases List.mem_append.mp he with he | he
  · exact hl e he
  · exact hk e he

theorem unset_of_inspections (hl : ∀ e ∈ l, e.query.isInspection = true) : Unset l := by
  intro e he looked
  have inspects := hl e he
  obtain ⟨s, q, r⟩ := e
  cases q with
  | cancelled => cases inspects
  | _ => cases looked

/-- A cycle ends with the look that shows the token set, and says so; no other cycle says that it was
cancelled. -/
inductive Heeds : List (Exchange σ) → Except Fault CycleResult → Prop where
  | unset {l o} (hl : Unset l) (uncancelled : ∀ r, o = .ok r → r.cancelled = false) : Heeds l o
  | stopped {l r} (hl : Unset l) (s) (cancelled : r.cancelled = true) :
      Heeds (l ++ [⟨s, .cancelled, true⟩]) (.ok r)

theorem CoolsDown.unset {owner : Option Owner} {u : Except Fault Unit}
    (hl : CoolsDown c owner l u) : Unset l := by
  cases hl with
  | unowned => simp [Unset]
  | timeless s f => simp [Unset, Exchange.look?]
  | recorded hl s hu => cases hl <;> simp [Unset, Exchange.look?]

theorem Attempts.unset {owner : Option Owner} {v : Except Fault Verdict}
    (hl : Attempts c n p owner l v) : Unset l ∧ v ≠ .ok .cancelled := by
  cases hl with
  | rateLimited ha s s' r hv =>
      refine ⟨by simp [Unset, Exchange.look?], ?_⟩
      rintro rfl
      simp [Fault.map_eq_ok_iff] at hv
  | failed ha s s' r hv =>
      refine ⟨by simp [Unset, Exchange.look?], ?_⟩
      rintro rfl
      simp [Fault.map_eq_ok_iff] at hv
  | broken ha s => exact ⟨by simp [Unset, Exchange.look?], by simp⟩
  | unreported s s' f => exact ⟨by simp [Unset, Exchange.look?], by simp⟩
  | evicted hl s s' hv =>
      refine ⟨by simpa [Unset, Exchange.look?] using hl.unset, ?_⟩
      rintro rfl
      simp [Fault.map_eq_ok_iff] at hv

/-- A visit that finds the token set is that look, and no other visit ends so. -/
theorem Visits.heeds {v : Except Fault Verdict} (hk : Visits c profiles n p k v) :
    (v = .ok .cancelled ∧ ∃ s, k = [⟨s, .cancelled, true⟩]) ∨ (v ≠ .ok .cancelled ∧ Unset k) := by
  have inspected {s s' : σ} {now : Instant} {k : List (Exchange σ)} {d : Except Fault Decision}
      (hj : Admission.Judges c.cooldownMark p now k d) :
      Unset (⟨s, .cancelled, false⟩ :: ⟨s', .clock, .ok now⟩ :: k) := by
    simpa [Unset, Exchange.look?] using unset_of_inspections hj.inspects
  cases hk with
  | cancelled s => exact .inl ⟨rfl, s, rfl⟩
  | ineligible he s => exact .inr ⟨by simp, by simp [Unset, Exchange.look?]⟩
  | timeless he s s' f => exact .inr ⟨nofun, by simp [Unset, Exchange.look?]⟩
  | unjudged he hj s s' => exact .inr ⟨nofun, inspected hj⟩
  | rejected he hj hd s s' => exact .inr ⟨by simp, inspected hj⟩
  | admitted he hj hd ha s s' =>
      rw [← List.cons_append, ← List.cons_append]
      exact .inr ⟨ha.unset.2, (inspected hj).append ha.unset.1⟩

theorem unset_exchangesOf {vs : List (Visited σ)} (made : ∀ v ∈ vs, v.Made c profiles)
    (uncancelled : ∀ v ∈ vs, v.ending ≠ .ok .cancelled) : Unset (exchangesOf vs) := by
  intro e he
  obtain ⟨v, hv, he⟩ := List.mem_flatMap.mp he
  rcases (made v hv).heeds with ⟨cancelled, -⟩ | ⟨-, unset⟩
  · exact absurd cancelled (uncancelled v hv)
  · exact unset e he

theorem Visited.ne_cancelled_of_isPassing {v : Visited σ} (passing : v.isPassing = true) :
    v.ending ≠ .ok .cancelled := by
  intro cancelled
  simp [Visited.isPassing, cancelled] at passing

/-- Only the last of visits in a row may have found the token set. -/
theorem Follows.uncancelled {init : List (Visited σ)} {last : Visited σ}
    (hvs : Follows c profiles (init ++ [last])) (hl : last.ending ≠ .ok .cancelled) :
    ∀ v ∈ init ++ [last], v.ending ≠ .ok .cancelled :=
  hvs.forall_of_last (fun _ => Visited.ne_cancelled_of_isPassing) hl

theorem settled_cancelled (c : Config) (evicted : List String) :
    (settled c evicted).cancelled = false := by
  rw [settled]
  split
  · rfl
  · rfl

/-- The opening heeds the token as well. -/
theorem Opens.heeds {o : Except Fault (CycleResult ⊕ List Node × List Pod)}
    (hl : Opens c profiles l o) :
    (Unset l ∧ ∀ r, o = .ok (.inl r) → r.cancelled = false) ∨
      ∃ k s r, l = k ++ [⟨s, .cancelled, true⟩] ∧ Unset k ∧ o = .ok (.inl r) ∧ r.cancelled = true := by
  have told {es k u} (hk : Announces es k u) (e : Exchange σ) (he : e ∈ k) : e.look? ≠ some true :=
    unset_of_inspections hk.records e he
  cases hl with
  | unprofiled hp => exact .inl ⟨by simp [Unset], by rintro r ⟨⟩; rfl⟩
  | cancelled s => exact .inr ⟨[], s, _, rfl, by simp [Unset], rfl, rfl⟩
  | nodesUnlisted s s' message =>
      exact .inl ⟨by simp [Unset, Exchange.look?], by rintro r ⟨⟩; rfl⟩
  | nodesBroken hf s s' => exact .inl ⟨by simp [Unset, Exchange.look?], by simp⟩
  | unmarked hd s s' => exact .inl ⟨by simp [Unset, Exchange.look?], by simp⟩
  | unannounced hd hk s s' =>
      exact .inl ⟨by simpa [Unset, Exchange.look?] using told hk, by simp⟩
  | healthy hd s s' => exact .inl ⟨by simp [Unset, Exchange.look?], by rintro r ⟨⟩; rfl⟩
  | stopped hd hk s s' s'' =>
      refine .inr ⟨_ :: _ :: _, s'', _, rfl, ?_, rfl, rfl⟩
      simpa [Unset, Exchange.look?] using told hk
  | podsUnlisted hd hk s s' s'' s₃ message =>
      refine .inl ⟨?_, by rintro r ⟨⟩; rfl⟩
      simpa [Unset, Exchange.look?, or_imp, forall_and] using told hk
  | podsBroken hd hk hf s s' s'' s₃ =>
      refine .inl ⟨?_, by simp⟩
      simpa [Unset, Exchange.look?, or_imp, forall_and] using told hk
  | opened hd hk s s' s'' s₃ =>
      refine .inl ⟨?_, by simp⟩
      simpa [Unset, Exchange.look?, or_imp, forall_and] using told hk

theorem Chronicle.heeds {o : Except Fault CycleResult} (hl : Chronicle c profiles l o) :
    Heeds l o := by
  cases hl with
  | broken hk =>
      rcases hk.heeds with ⟨unset, -⟩ | ⟨k, s, r, -, -, ⟨⟩, -⟩
      exact .unset unset (by simp)
  | closed hk =>
      rcases hk.heeds with ⟨unset, uncancelled⟩ | ⟨k, s, r, rfl, unset, ⟨⟩, cancelled⟩
      · exact .unset unset (by rintro r ⟨⟩; exact uncancelled _ rfl)
      · exact .stopped unset s cancelled
  | @visited k nodes pods vs o hk hvs ho =>
      have opened : Unset k := by
        rcases hk.heeds with ⟨unset, -⟩ | ⟨k, s, r, -, -, ⟨⟩, -⟩
        exact unset
      have through (uncancelled : ∀ v ∈ vs, v.ending ≠ .ok .cancelled) :
          Unset (k ++ exchangesOf vs) := opened.append (unset_exchangesOf hvs.made uncancelled)
      cases ho with
      | finished passing =>
          refine .unset (through fun v hv => Visited.ne_cancelled_of_isPassing (passing v hv)) ?_
          rintro r ⟨⟩
          exact settled_cancelled ..
      | @rateLimited init last split limited =>
          subst split
          refine .unset (through (hvs.uncancelled (by simp [limited]))) ?_
          rintro r ⟨⟩
          rfl
      | @cancelled init last split cancelled =>
          subst split
          have looked : ∃ s, last.exchanges = [⟨s, .cancelled, true⟩] := by
            rcases (hvs.made last (by simp)).heeds with ⟨-, looked⟩ | ⟨uncancelled, -⟩
            · exact looked
            · exact absurd cancelled uncancelled
          obtain ⟨s, looked⟩ := looked
          rw [exchangesOf_append, exchangesOf_singleton, looked, ← List.append_assoc]
          have made : ∀ v ∈ init, v.Made c profiles := fun v hv => hvs.made v (by simp [hv])
          refine .stopped (opened.append (unset_exchangesOf made fun v hv => ?_)) s rfl
          exact Visited.ne_cancelled_of_isPassing (hvs.passing v (by simpa using hv))
      | unranked passing f =>
          exact .unset (through fun v hv => Visited.ne_cancelled_of_isPassing (passing v hv)) (by simp)
      | @failed init last f split failed =>
          subst split
          exact .unset (through (hvs.uncancelled (by simp [failed]))) (by simp)

/-- In any world: of a cycle in which the token becomes set during one exchange and stays set, the exchanges
after that ask for no eviction, except for that of a candidate that is being weighed. The cycle stops where it
finds the token set, and its result tells the evictions that were accepted. -/
theorem cancellation_heeded (c : Config) (profiles : ProfileStore) (w : World σ) (s : σ)
    {before after : List (Exchange σ)} {e : Exchange σ}
    (split : ((reconcile c profiles).run w s).exchanges = before ++ e :: after)
    (set : ∀ x ∈ after, x.look? ≠ some false) :
    (¬ Weighing (before ++ [e]) → evictions after = []) ∧ Ceases (before ++ [e]) after ∧
      Heeds ((reconcile c profiles).run w s).exchanges ((reconcile c profiles).run w s).outcome ∧
      ∀ r, ((reconcile c profiles).run w s).outcome = .ok r →
        r.evicted = accepted ((reconcile c profiles).run w s).exchanges := by
  have chronicle := chronicle_reconcile c profiles w s
  have ceases : Ceases (before ++ [e]) after := by
    have weighed := chronicle.weighed
    rw [split, List.append_cons] at weighed
    exact ceases_of_weighed (Throughout.append_iff.mp weighed).2 set
  refine ⟨ceases.evictions, ceases, chronicle.heeds, fun r hr => ?_⟩
  have closes := closes_reconcile c profiles w s
  rw [hr] at closes
  exact closes.1.evicted

/-! ## Runs -/

namespace Sample

/-- The exchanges of a cycle in the scene, in which the token becomes set with so many calls. -/
def exchangesIn (c : Config) (calls : Nat) : List (Exchange (Scene Cluster)) :=
  ((reconcile c Sample.profiles).run Cluster.world { scene with callsLeft := some calls }).exchanges

/-- The namespace whose budgets a query lists. -/
def listed? : Query → Option Document
  | .call (.listBudgets ns) => some ns
  | _ => none

end Sample

open Sample in
/-- The token becomes set with the first eviction, and no second one is asked for. -/
theorem cancellation_heeded_sample :
    ∃ before e after, exchangesIn sweep 5 = before ++ e :: after ∧
      e.query.evictee? = some (pod "web-1" "node-a") ∧
      (Cluster.world.reply .cancelled e.before).1 = false ∧ (∀ x ∈ after, x.look? ≠ some false) ∧
      ¬ Weighing (before ++ [e]) ∧ evictions after = [] := by
  have first : (exchangesIn sweep 5)[10]?.any (fun e =>
      e.query.evictee? = some (pod "web-1" "node-a") ∧
        (Cluster.world.reply .cancelled e.before).1 = false) = true := by decide +kernel
  have set : ((exchangesIn sweep 5).drop 11).all (·.look? ≠ some false) = true := by decide +kernel
  obtain ⟨e, ⟨asked, unset⟩, split⟩ := parted_at 10 first
  simp only [List.all_eq_true, decide_eq_true_eq] at set
  have unweighed : ¬ Weighing ((exchangesIn sweep 5).take 10 ++ [e]) := by
    apply Weighing.not_of_eviction?
    intro none
    rw [Exchange.evictee?_eq, none] at asked
    cases asked
  have heeded := cancellation_heeded sweep Sample.profiles Cluster.world _ split set
  exact ⟨_, e, _, split, asked, unset, set, unweighed, heeded.1 unweighed⟩

open Sample in
/-- The token becomes set with the list of budgets, and still the eviction is asked for. -/
theorem cancellation_overtaken :
    ∃ before e after, exchangesIn config 4 = before ++ e :: after ∧
      listed? e.query = some "shop" ∧
      (Cluster.world.reply .cancelled e.before).1 = false ∧
      (∀ x ∈ after, (Cluster.world.reply .cancelled x.before).1 = true) ∧
      (evictions after).map (·.1) = [pod "web-1" "node-a"] := by
  have first : (exchangesIn config 4)[9]?.any (fun e =>
      listed? e.query = some "shop" ∧ (Cluster.world.reply .cancelled e.before).1 = false) = true := by
    decide +kernel
  have set : ((exchangesIn config 4).drop 10).all
      (fun x => (Cluster.world.reply .cancelled x.before).1 = true) = true := by decide +kernel
  have overtaken : (evictions ((exchangesIn config 4).drop 10)).map (·.1) =
      [pod "web-1" "node-a"] := by decide +kernel
  obtain ⟨e, ⟨listed, unset⟩, split⟩ := parted_at 9 first
  simp only [List.all_eq_true, decide_eq_true_eq] at set
  exact ⟨_, e, _, split, listed, unset, set, overtaken⟩

end Cycle

end NodeRelief
