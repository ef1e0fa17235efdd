import NodeRelief.Proofs.Cycle.Trail
import NodeRelief.Proofs.Scene

/-! # What a cycle looks at

Two clusters may differ in all that is not about the pods of degraded nodes. A cycle cannot tell them apart:
it asks the same of both, and comes to the same. -/

namespace NodeRelief

variable {α β σ τ : Type}

/-! ## Two runs in step -/

/-- What can be told of an exchange from outside: what was asked, and the event that was recorded with it. -/
def Exchange.sight (e : Exchange σ) : Query × Option Event := (e.query, e.report?)

theorem Exchange.sight_eq {q : Query} {r r' : q.Reply} (same : r = r') (s s' : σ) :
    (⟨s, q, r⟩ : Exchange σ).sight = (⟨s', q, r'⟩ : Exchange σ).sight := by
  subst same
  cases q with
  | record e =>
      cases r with
      | ok u => rfl
      | error f => rfl
  | _ => rfl

/-- Two runs ask and report the same; they come to the same, in states that are related. -/
structure Run.Matches (R : σ → σ → Prop) (run run' : Run σ α) : Prop where
  outcome : run.outcome = run'.outcome
  exchanges : run.exchanges.map Exchange.sight = run'.exchanges.map Exchange.sight
  states : R run.state run'.state

namespace Plan

/-- Run from `s` the plan does what the other does when run from `s'`. -/
def InStep (w : World σ) (R : σ → σ → Prop) (p : Plan α) (s : σ) (p' : Plan α) (s' : σ) : Prop :=
  Run.Matches R (p.run w s) (p'.run w s')

namespace InStep

variable {w : World σ} {R R' : σ → σ → Prop} {p p' : Plan α} {s s' : σ}

theorem pure {a : α} (h : R s s') : InStep w R (Pure.pure a) s (Pure.pure a) s' := ⟨rfl, rfl, h⟩

theorem fail {f : Fault} (h : R s s') : InStep w R (Plan.fail f : Plan α) s (Plan.fail f) s' :=
  ⟨rfl, rfl, h⟩

theorem ask {q : Query} {k k' : q.Reply → Plan α} (same : (w.reply q s).1 = (w.reply q s').1)
    (h : InStep w R (k (w.reply q s).1) (w.reply q s).2 (k' (w.reply q s').1) (w.reply q s').2) :
    InStep w R (.ask q k) s (.ask q k') s' :=
  ⟨h.outcome, congrArg₂ List.cons (Exchange.sight_eq same s s') h.exchanges, h.states⟩

/-- The replies to a call need not be the same, as long as the plans go on in step. -/
theorem call {c : Call} {k k' : Except Fault c.Value → Plan α}
    (h : InStep w R (k (w.reply (.call c) s).1) (w.reply (.call c) s).2
      (k' (w.reply (.call c) s').1) (w.reply (.call c) s').2) :
    InStep w R (Plan.call c >>= k) s (Plan.call c >>= k') s' :=
  ⟨h.outcome, congrArg (List.cons _) h.exchanges, h.states⟩

theorem bind {k k' : α → Plan β} (h : InStep w R p s p' s') (hR : ∀ t t', R t t' → R' t t')
    (hk : ∀ a t t', R t t' → InStep w R' (k a) t (k' a) t') :
    InStep w R' (p >>= k) s (p' >>= k') s' := by
  obtain ⟨outcome, exchanges, states⟩ := h
  rw [InStep, run_bind, run_bind]
  generalize p.run w s = first at outcome exchanges states
  generalize p'.run w s' = first' at outcome exchanges states
  obtain ⟨o, t, l⟩ := first
  obtain ⟨o', t', l'⟩ := first'
  obtain rfl : o = o' := outcome
  cases o with
  | ok a =>
      have next := hk a t t' states
      refine ⟨next.outcome, ?_, next.states⟩
      rw [List.map_append, List.map_append, next.exchanges]
      exact congrArg (· ++ _) exchanges
  | error f => exact ⟨rfl, exchanges, hR t t' states⟩

/-- The same plan stays in step as long as it asks what is answered alike in related states. -/
theorem lockstep {P : Query → Prop}
    (step : ∀ q, P q → ∀ t t', R t t' → (w.reply q t).1 = (w.reply q t').1 ∧
      R (w.reply q t).2 (w.reply q t').2)
    (asks : ∀ e ∈ (p.run w s).exchanges, P e.query) (h : R s s') : InStep w R p s p s' := by
  induction p generalizing s s' with
  | done a => exact .pure h
  | fail f => exact .fail h
  | ask q k ih =>
      obtain ⟨same, next⟩ := step q (asks _ (List.mem_cons_self ..)) s s' h
      refine .ask same ?_
      rw [← same]
      exact ih _ (fun e he => asks e (List.mem_cons_of_mem _ he)) next

end InStep

end Plan

/-! ## Clusters that cannot be told apart -/

/-- The world has a cluster in its states, and a rest that takes no notice of it: the recorder, the clock and
the cancel token. -/
structure World.Apart (w : World σ) (view : σ → Cluster) (rest : σ → τ) : Prop extends w.Hosts view where
  reply : ∀ q s s', q.isCall = false → rest s = rest s' → (w.reply q s).1 = (w.reply q s').1
  next : ∀ q s s', rest s = rest s' → rest (w.reply q s).2 = rest (w.reply q s').2

/-- What a scene has beside its cluster. -/
def Scene.besides {κ : Type} (s : Scene κ) : Recorder × Clock × Option Nat :=
  (s.recorder, s.clock, s.callsLeft)

theorem Cluster.apart : world.Apart Scene.cluster Scene.besides where
  toHosts := hosts
  reply q s s' hq same := by
    obtain ⟨cl, recorder, clock, callsLeft⟩ := s
    obtain ⟨cl', recorder', clock', callsLeft'⟩ := s'
    cases same
    cases q with
    | call c => cases hq
    | _ => rfl
  next q s s' same := by
    obtain ⟨cl, recorder, clock, callsLeft⟩ := s
    obtain ⟨cl', recorder', clock', callsLeft'⟩ := s'
    cases same
    cases q <;> rfl

/-- A query lists nothing but the budgets of these pods. -/
def Query.Concerns (pods : List Pod) : Query → Prop
  | .call .listNodes | .call .listPods => False
  | .call (.listBudgets ns) => ∃ p ∈ pods, p.ns = ns
  | _ => True

namespace Cluster

/-- The clusters have the same in them, as far as it is about these pods. -/
structure Agree (pods : List Pod) (cl cl' : Cluster) : Prop where
  owners : cl.owners = cl'.owners
  failures : cl.failures = cl'.failures
  budgets : ∀ p ∈ pods, cl.budgets.filter (·.ns.equals p.ns) = cl'.budgets.filter (·.ns.equals p.ns)

theorem Agree.answer {pods : List Pod} {cl cl' : Cluster} (h : Agree pods cl cl') {call : Call}
    (concerns : Query.Concerns pods (.call call)) :
    (answer call cl).1 = (answer call cl').1 ∧ Agree pods (answer call cl).2 (answer call cl').2 := by
  cases call with
  | listNodes => exact concerns.elim
  | listPods => exact concerns.elim
  | listBudgets ns =>
      obtain ⟨p, hp, rfl⟩ := concerns
      refine ⟨?_, h⟩
      simp only [Cluster.answer, listBudgets, failure?, h.failures, h.budgets p hp]
  | readOwner id =>
      refine ⟨?_, h⟩
      simp only [Cluster.answer, readOwner, failure?, owner?, h.failures, h.owners]
  | annotateOwner o entries =>
      have target : cl.patchTarget o = cl'.patchTarget o := by
        simp only [patchTarget, failure?, owner?, h.failures, h.owners]
      simp only [Cluster.answer, patchOwner, target]
      cases cl'.patchTarget o with
      | error f => exact ⟨rfl, h⟩
      | ok stored =>
          have owners := congrArg (Register.put · { stored with
            annotations := (stored.annotations.update entries).1 }) h.owners
          exact ⟨rfl, owners, h.failures, h.budgets⟩
  | evict p g =>
      simp only [Cluster.answer, evict, h.failures]
      split
      · exact ⟨rfl, h⟩
      · exact ⟨rfl, h.owners, rfl, h.budgets⟩

/-! Lists of nodes and of pods fail alike, or tell what there is. -/

theorem Agree.listNodes {pods : List Pod} {cl cl' : Cluster} (h : Agree pods cl cl') :
    (∃ f, cl.listNodes = .error f ∧ cl'.listNodes = .error f) ∨
      cl.listNodes = .ok cl.nodes.items ∧ cl'.listNodes = .ok cl'.nodes.items := by
  simp only [Cluster.listNodes, failure?_of_isKey .nodes rfl, h.failures]
  cases cl'.failures (FailurePoint.canonical .nodes) with
  | some f => exact .inl ⟨_, rfl, rfl⟩
  | none => exact .inr ⟨rfl, rfl⟩

theorem Agree.listPods {pods : List Pod} {cl cl' : Cluster} (h : Agree pods cl cl') :
    (∃ f, cl.listPods = .error f ∧ cl'.listPods = .error f) ∨
      cl.listPods = .ok cl.pods.items ∧ cl'.listPods = .ok cl'.pods.items := by
  simp only [Cluster.listPods, failure?_of_isKey .pods rfl, h.failures]
  cases cl'.failures (FailurePoint.canonical .pods) with
  | some f => exact .inl ⟨_, rfl, rfl⟩
  | none => exact .inr ⟨rfl, rfl⟩

end Cluster

namespace Cycle

/-- The active pods on the degraded nodes of a cluster. -/
def onDegraded (c : Config) (cl : Cluster) : List Pod :=
  cl.pods.items.filter fun p =>
    p.isActive && cl.nodes.items.any fun n => isDegraded c n && p.node.equals n.name

/-- The clusters and the profiles are the same as far as a cycle looks at them. -/
structure Indistinct (c : Config) (cl cl' : Cluster) (profiles profiles' : ProfileStore) : Prop
    extends Cluster.Agree (onDegraded c cl) cl cl' where
  nodes : degraded c cl.nodes.items = degraded c cl'.nodes.items
  pods : onDegraded c cl = onDegraded c cl'
  profiled : ∀ p ∈ onDegraded c cl,
    p.profile? profiles c.workloadLabel = p.profile? profiles' c.workloadLabel
  unprofiled : profiles.isEmpty = profiles'.isEmpty

/-! ## The plan of the relief -/

section Relief

variable {c : Config} {profiles profiles' : ProfileStore} {n : Node} {p : Pod} {pods pods' ranked : List Pod}
  {nodes : List Node}

theorem rank_of_profiles {label : Document}
    (same : ∀ p ∈ pods, p.profile? profiles label = p.profile? profiles' label) :
    Ranking.rank profiles label pods = Ranking.rank profiles' label pods := by
  have keyed : pods.mapM (Ranking.keyed profiles label) = pods.mapM (Ranking.keyed profiles' label) := by
    induction pods with
    | nil => rfl
    | cons p rest ih =>
        have key : Ranking.keyed profiles label p = Ranking.keyed profiles' label p := by
          simp only [Ranking.keyed, Ranking.sortKey, same p (by simp)]
        rw [List.mapM_cons, List.mapM_cons, key, ih fun q hq => same q (by simp [hq])]
  rw [Ranking.rank, Ranking.rank, keyed]

theorem visit_of_profile (same : p.profile? profiles c.workloadLabel = p.profile? profiles' c.workloadLabel) :
    visit c profiles n p = visit c profiles' n p := by
  have eligible : isEligible c profiles p = isEligible c profiles' p := by rw [isEligible, isEligible, same]
  rw [visit, visit, eligible]

theorem walk_of_profiles {taken : List String}
    (same : ∀ p ∈ ranked, p.profile? profiles c.workloadLabel = p.profile? profiles' c.workloadLabel) :
    walk c profiles n taken ranked = walk c profiles' n taken ranked := by
  induction ranked generalizing taken with
  | nil => rfl
  | cons p rest ih =>
      have ih (taken) := @ih taken fun q hq => same q (by simp [hq])
      rw [walk_cons, walk_cons, visit_of_profile (same p (by simp))]
      congr 2
      funext verdict
      cases verdict <;> simp only [proceed, ih]

theorem relieve_of_candidates {evicted : List String}
    (same : ∀ n ∈ nodes, candidates n pods = candidates n pods')
    (profiled : ∀ n ∈ nodes, ∀ p ∈ candidates n pods,
      p.profile? profiles c.workloadLabel = p.profile? profiles' c.workloadLabel) :
    relieve c profiles pods evicted nodes = relieve c profiles' pods' evicted nodes := by
  induction nodes generalizing evicted with
  | nil => rfl
  | cons n rest ih =>
      have ih (evicted) := @ih evicted (fun m hm => same m (by simp [hm]))
        fun m hm => profiled m (by simp [hm])
      have here := profiled n (by simp)
      rw [relieve_cons, relieve_cons, ← same n (by simp), rank_of_profiles here]
      cases hr : Ranking.rank profiles' c.workloadLabel (candidates n pods) with
      | error f => rfl
      | ok ranked =>
          have walks : walk c profiles n [] ranked = walk c profiles' n [] ranked :=
            walk_of_profiles fun p hp => here p ((perm_of_rank hr).mem_iff.mp hp)
          change walk c profiles n [] ranked >>= _ = walk c profiles' n [] ranked >>= _
          rw [walks]
          apply bind_congr
          rintro ⟨taken, ending⟩
          cases ending <;> simp only [resume, ih]

end Relief

/-! ## The queries of the relief -/

section Queries

variable {c : Config} {profiles : ProfileStore} {n : Node} {p : Pod} {now : Instant} {pods among ranked : List Pod}
  {nodes : List Node} {l : List (Exchange σ)} {w : World σ} {s : σ}

theorem concerns_of_judges (hp : p ∈ among) {d : Except Fault Decision}
    (hj : Admission.Judges c.cooldownMark p now l d) : ∀ e ∈ l, e.query.Concerns among := by
  have known {k : List (Exchange σ)} {r} (hr : Ownership.Resolves p k r) :
      ∀ e ∈ k, e.query.Concerns among := by
    intro e he
    obtain ⟨id, hq⟩ := hr.reads e he
    rw [hq]
    trivial
  have listed : ∃ q ∈ among, q.ns = p.ns := ⟨p, hp, rfl⟩
  cases hj with
  | unresolved hr hf => exact known hr
  | unreadable ho hc => exact known ho.choose_spec.1
  | cooling ho hc s r message hd =>
      simpa [or_imp, forall_and, Query.Concerns] using known ho.choose_spec.1
  | free ho hc hv s => simpa [or_imp, forall_and, Query.Concerns, listed] using known ho.choose_spec.1
  | hindered ho hc hv s s' r hd =>
      simpa [or_imp, forall_and, Query.Concerns, listed] using known ho.choose_spec.1
  | unclear ho hc hf hv s =>
      simpa [or_imp, forall_and, Query.Concerns, listed] using known ho.choose_spec.1

theorem concerns_of_attempts {owner : Option Owner} {v : Except Fault Verdict}
    (ha : Attempts c n p owner l v) : ∀ e ∈ l, e.query.Concerns among := by
  cases ha with
  | rateLimited ha s s' r hv => simp [Query.Concerns]
  | failed ha s s' r hv => simp [Query.Concerns]
  | broken ha s => simp [Query.Concerns]
  | unreported s s' f => simp [Query.Concerns]
  | evicted hl s s' hv =>
      cases hl with
      | unowned => simp [Query.Concerns]
      | timeless s f => simp [Query.Concerns]
      | recorded hl s hu => cases hl <;> simp [Query.Concerns]

/-- The visit of a pod lists nothing but its budgets. -/
theorem Visits.concerns (hp : p ∈ among) {v : Except Fault Verdict} (h : Visits c profiles n p l v) :
    ∀ e ∈ l, e.query.Concerns among := by
  cases h with
  | cancelled s => simp [Query.Concerns]
  | ineligible he s => simp [Query.Concerns]
  | timeless he s s' f => simp [Query.Concerns]
  | unjudged he hj s s' => simpa [Query.Concerns] using concerns_of_judges hp hj
  | rejected he hj hd s s' => simpa [Query.Concerns] using concerns_of_judges hp hj
  | admitted he hj hd ha s s' =>
      simpa [Query.Concerns, or_imp, forall_and] using
        ⟨concerns_of_judges hp hj, concerns_of_attempts ha⟩

theorem concerns_walk (mem : ∀ p ∈ ranked, p ∈ among) {taken : List String}
    (start : ∀ e ∈ l, e.query.Concerns among) :
    (walk c profiles n taken ranked).Ensures w l s fun _ l _ => ∀ e ∈ l, e.query.Concerns among := by
  refine walk_ensures (I := fun _ rest l _ => (∀ p ∈ rest, p ∈ among) ∧
    ∀ e ∈ l, e.query.Concerns among) ?_ ?_ ⟨mem, start⟩
  · rintro taken ranked l s ⟨-, concerns⟩ -
    exact concerns
  · rintro taken p rest l s ⟨mem, concerns⟩ -
    apply Plan.Ensures.of_course
    intro k v s' hk hl
    have visited := (visits_of_course hk).concerns (mem p (by simp))
    have concerns : ∀ e ∈ l ++ k, e.query.Concerns among := by
      simpa [or_imp, forall_and] using ⟨concerns, visited⟩
    have mem : ∀ q ∈ rest, q ∈ among := fun q hq => mem q (by simp [hq])
    match v with
    | .ok .passed => exact ⟨mem, concerns⟩
    | .ok .evicted => exact ⟨fun _ => concerns, fun _ => ⟨mem, concerns⟩⟩
    | .ok .rateLimited => exact concerns
    | .ok .cancelled => exact concerns
    | .error f => exact concerns

/-- The relief of nodes lists nothing but the budgets of their candidates. -/
theorem concerns_relieve (mem : ∀ n ∈ nodes, ∀ p ∈ candidates n pods, p ∈ among) {evicted : List String}
    (start : ∀ e ∈ l, e.query.Concerns among) :
    (relieve c profiles pods evicted nodes).Ensures w l s fun _ l _ =>
      ∀ e ∈ l, e.query.Concerns among := by
  refine relieve_ensures (J := fun _ rest l _ => (∀ n ∈ rest, ∀ p ∈ candidates n pods, p ∈ among) ∧
    ∀ e ∈ l, e.query.Concerns among) ?_ ?_ ?_ ⟨mem, start⟩
  · rintro evicted l s ⟨-, concerns⟩
    exact concerns
  · rintro evicted n rest l s f ⟨-, concerns⟩ -
    exact concerns
  · rintro evicted n rest l s ranked ⟨mem, concerns⟩ hr
    have here (p : Pod) (hp : p ∈ ranked) : p ∈ among :=
      mem n (by simp) p ((perm_of_rank hr).mem_iff.mp hp)
    refine (concerns_walk here concerns).mono ?_
    intro o l s concerns
    match o with
    | .ok ⟨taken, .rateLimited⟩ => exact concerns
    | .ok ⟨taken, .cancelled⟩ => exact concerns
    | .ok ⟨taken, .finished⟩ =>
      exact ⟨fun _ _ => concerns, fun _ => ⟨fun m hm => mem m (by simp [hm]), concerns⟩⟩
    | .error f => exact concerns

end Queries

/-! ## Two cycles -/

section Runs

variable {c : Config} {profiles profiles' : ProfileStore} {w : World σ} {view : σ → Cluster} {rest : σ → τ}
  {cl cl' : Cluster} {s s' : σ}

/-- The states have these clusters, and the same besides. -/
structure Beside (view : σ → Cluster) (rest : σ → τ) (cl cl' : Cluster) (s s' : σ) : Prop where
  left : view s = cl
  right : view s' = cl'
  rest : rest s = rest s'

theorem Beside.reads (apart : w.Apart view rest) (h : Beside view rest cl cl' s s') {q : Query}
    (reads : q.isRead = true) : Beside view rest cl cl' (w.reply q s).2 (w.reply q s').2 :=
  ⟨(apart.reply_of_isRead reads s).trans h.left, (apart.reply_of_isRead reads s').trans h.right,
    apart.next q s s' h.rest⟩

/-- A list that is asked for fails alike, or tells what the clusters hold. -/
theorem inStep_of_list (apart : w.Apart view rest) {R : σ → σ → Prop} {call : Call}
    (reads : (Query.call call).isRead = true) {k k' : Except Fault call.Value → Plan α} {a a' : call.Value}
    (answers : (∃ f, (Cluster.answer call cl).1 = .error f ∧ (Cluster.answer call cl').1 = .error f) ∨
      (Cluster.answer call cl).1 = .ok a ∧ (Cluster.answer call cl').1 = .ok a')
    (h : Beside view rest cl cl' s s')
    (failed : ∀ f t t', Beside view rest cl cl' t t' → (k (.error f)).InStep w R t (k' (.error f)) t')
    (listed : ∀ t t', Beside view rest cl cl' t t' → (k (.ok a)).InStep w R t (k' (.ok a')) t') :
    (Plan.call call >>= k).InStep w R s (Plan.call call >>= k') s' := by
  have next := h.reads apart reads
  rw [← h.left, ← h.right, apart.call, apart.call] at answers
  refine .call ?_
  rcases answers with ⟨f, hf, hf'⟩ | ⟨ha, ha'⟩
  · rw [show (w.reply (.call call) s).1 = _ from hf, show (w.reply (.call call) s').1 = _ from hf']
    exact failed f _ _ next
  · rw [show (w.reply (.call call) s).1 = _ from ha, show (w.reply (.call call) s').1 = _ from ha']
    exact listed _ _ next

/-- A plan that calls no cluster does not tell them apart. -/
theorem inStep_of_uncalled (apart : w.Apart view rest) {p : Plan α}
    (uncalled : ∀ e ∈ (p.run w s).exchanges, e.query.isCall = false)
    (h : Beside view rest cl cl' s s') : p.InStep w (Beside view rest cl cl') s p s' := by
  refine .lockstep (P := (·.isCall = false)) ?_ uncalled h
  intro q hq t t' h
  have reads : q.isRead = true := by
    cases q with
    | call call => cases hq
    | _ => rfl
  exact ⟨apart.reply q t t' hq h.rest, h.reads apart reads⟩

theorem Announces.uncalled {es : List Event} {l : List (Exchange σ)} {u : Except Fault Unit}
    (h : Announces es l u) : ∀ e ∈ l, e.query.isCall = false := by
  induction h with
  | done => simp
  | told h s ih => simpa [Query.isCall] using ih
  | failed s f => simp [Query.isCall]

theorem inStep_relieve (apart : w.Apart view rest) {pods among : List Pod} {evicted : List String}
    {nodes : List Node} (mem : ∀ n ∈ nodes, ∀ p ∈ candidates n pods, p ∈ among)
    (agree : (view s).Agree among (view s')) (same : rest s = rest s') :
    (relieve c profiles pods evicted nodes).InStep w (fun t t' => rest t = rest t') s
      (relieve c profiles pods evicted nodes) s' := by
  have concerns : ∀ e ∈ ((relieve c profiles pods evicted nodes).run w s).exchanges,
      e.query.Concerns among := concerns_relieve (l := []) mem (by simp)
  have lockstep : (relieve c profiles pods evicted nodes).InStep w
      (fun t t' => rest t = rest t' ∧ (view t).Agree among (view t')) s
      (relieve c profiles pods evicted nodes) s' := .lockstep ?_ concerns ⟨same, agree⟩
  · exact ⟨lockstep.outcome, lockstep.exchanges, lockstep.states.1⟩
  rintro q hq t t' ⟨same, agree⟩
  cases q with
  | call call =>
      obtain ⟨answered, agree⟩ := agree.answer hq
      rw [apart.call, apart.call] at answered agree
      exact ⟨answered, apart.next _ t t' same, agree⟩
  | _ =>
      refine ⟨apart.reply _ t t' rfl same, apart.next _ t t' same, ?_⟩
      rw [apart.other _ t rfl, apart.other _ t' rfl]
      exact agree

theorem candidates_onDegraded {nodes : List Node} (hd : degraded c cl.nodes.items = .ok nodes) :
    ∀ n ∈ nodes, candidates n (onDegraded c cl) = candidates n cl.pods.items := by
  obtain ⟨-, rfl⟩ := Fault.ifKey_eq_ok_iff.mp hd
  intro n hn
  rw [candidates, onDegraded, List.filter_filter]
  refine List.filter_congr fun p _ => ?_
  obtain ⟨hn, marked⟩ := List.mem_filter.mp hn
  by_cases here : p.node.equals n.name = true
  · have any : cl.nodes.items.any (fun n => isDegraded c n && p.node.equals n.name) = true :=
      List.any_eq_true.mpr ⟨n, hn, by simp [marked, here]⟩
    simp [here, any]
  · simp [here]

theorem inStep_relief (apart : w.Apart view rest) (h : Indistinct c cl cl' profiles profiles')
    {nodes : List Node} (hd : degraded c cl.nodes.items = .ok nodes)
    (beside : Beside view rest cl cl' s s') :
    (relieve c profiles cl.pods.items [] nodes).InStep w (fun t t' => rest t = rest t') s
      (relieve c profiles' cl'.pods.items [] nodes) s' := by
  have left := candidates_onDegraded hd
  have right := candidates_onDegraded (h.nodes ▸ hd)
  have same (n : Node) (hn : n ∈ nodes) : candidates n cl.pods.items = candidates n cl'.pods.items := by
    rw [← left n hn, h.pods, right n hn]
  have mem (n : Node) (hn : n ∈ nodes) (p : Pod) (hp : p ∈ candidates n cl.pods.items) :
      p ∈ onDegraded c cl := by
    rw [← left n hn] at hp
    exact List.mem_of_mem_filter hp
  rw [← relieve_of_candidates same fun n hn p hp => h.profiled p (mem n hn p hp)]
  refine inStep_relieve apart mem ?_ beside.rest
  rw [beside.left, beside.right]
  exact h.toAgree

theorem inStep_reconcile (apart : w.Apart view rest)
    (h : Indistinct c (view s) (view s') profiles profiles') (same : rest s = rest s') :
    (reconcile c profiles).InStep w (fun t t' => rest t = rest t') s (reconcile c profiles') s' := by
  have beside : Beside view rest (view s) (view s') s s' := ⟨rfl, rfl, same⟩
  -- The clusters are kept as they are at first: until the relief nothing changes them.
  generalize view s = cl at h beside
  generalize view s' = cl' at h beside
  have onlyRest (t t' : σ) (h : Beside view rest cl cl' t t') : rest t = rest t' := h.rest
  have look {s s' : σ} (h : Beside view rest cl cl' s s') :
      Plan.cancelled.InStep w (Beside view rest cl cl') s Plan.cancelled s' :=
    inStep_of_uncalled apart (by simp [Plan.cancelled, Plan.run, Query.isCall]) h
  rw [reconcile, reconcile, ← h.unprofiled]
  split
  · exact .pure same
  refine .bind (look beside) onlyRest ?_
  clear beside same
  intro stop s s' beside
  cases stop with
  | true => exact .pure beside.rest
  | false =>
    refine inStep_of_list apart rfl h.listNodes beside ?_ ?_
    · intro f s s' beside
      cases f with
      | listing message => exact .pure beside.rest
      | _ => exact .fail beside.rest
    clear beside
    intro s s' beside
    dsimp only
    rw [← h.nodes]
    cases hd : degraded c cl.nodes.items with
    | error f => exact .fail beside.rest
    | ok ds =>
      change Plan.InStep w _ (Plan.recordAll (ds.map .nodeDegraded) >>= _) s
        (Plan.recordAll (ds.map .nodeDegraded) >>= _) s'
      refine .bind (inStep_of_uncalled apart ?_ beside) onlyRest ?_
      · exact (announces_of_course (Plan.Course.run w (Plan.recordAll _) s)).uncalled
      clear beside
      rintro ⟨⟩ s s' beside
      split
      · exact .pure beside.rest
      refine .bind (look beside) onlyRest ?_
      clear beside
      intro stop s s' beside
      cases stop with
      | true => exact .pure beside.rest
      | false =>
        refine inStep_of_list apart rfl h.listPods beside ?_ ?_
        · intro f s s' beside
          cases f with
          | listing message => exact .pure beside.rest
          | _ => exact .fail beside.rest
        exact fun s s' beside => inStep_relief apart h hd beside

/-- Whatever the clock, the recorder and the cancel token do, as long as they take no notice of the cluster:
what a cycle does not look at has no influence on what it asks, what it reports and what it comes to. -/
theorem irrelevant_ignored (apart : w.Apart view rest)
    (indistinct : Indistinct c (view s) (view s') profiles profiles') (same : rest s = rest s') :
    ((reconcile c profiles).run w s).outcome = ((reconcile c profiles').run w s').outcome ∧
      ((reconcile c profiles).run w s).exchanges.map Exchange.query =
        ((reconcile c profiles').run w s').exchanges.map Exchange.query ∧
      reports ((reconcile c profiles).run w s).exchanges =
        reports ((reconcile c profiles').run w s').exchanges := by
  obtain ⟨outcome, sights, -⟩ := inStep_reconcile apart indistinct same
  refine ⟨outcome, ?_, ?_⟩
  · have queries := congrArg (List.map Prod.fst) sights
    rwa [List.map_map, List.map_map] at queries
  · have events := congrArg (List.filterMap Prod.snd) sights
    rwa [List.filterMap_map, List.filterMap_map] at events

end Runs

namespace Sample

/-- The cluster with more in it: a healthy node with a pod, a pod that is through, and a budget of another
namespace. -/
def crowded : Cluster where
  nodes := .ofList [⟨"node-c", .empty, .empty, .null⟩, node "node-a", node "node-b"]
  pods := .ofList [pod "web-3" "node-c", { pod "web-0" "node-a" with phase := .succeeded },
    pod "web-1" "node-a", pod "web-2" "node-b"]
  budgets := [⟨"tight", "lab", some ⟨.empty, []⟩, .int 0⟩]
  owners := .ofList [owner]
  failures := fun _ => none

/-- The profiles and another one. -/
def moreProfiles : ProfileStore :=
  .ofList [⟨"batch", .int 1, .null, .null, .null⟩, ⟨"web", .int 9, .null, .null, .null⟩]

theorem indistinct_crowded : Indistinct config cluster crowded Sample.profiles moreProfiles where
  owners := rfl
  failures := rfl
  budgets := by decide +kernel
  nodes := rfl
  pods := by decide +kernel
  profiled := by decide +kernel
  unprofiled := rfl

end Sample

open Sample in
/-- What else is in the cluster makes no difference to the cycle that evicts the first pod. -/
theorem irrelevant_ignored_sample :
    ((reconcile config moreProfiles).run Cluster.world { scene with cluster := crowded }).outcome =
        .ok ⟨standardDelay, ["shop/web-1"], false, false, none⟩ ∧
      ((reconcile config Sample.profiles).run Cluster.world scene).outcome =
        ((reconcile config moreProfiles).run Cluster.world { scene with cluster := crowded }).outcome ∧
      ((reconcile config Sample.profiles).run Cluster.world scene).exchanges.map Exchange.query =
        ((reconcile config moreProfiles).run Cluster.world
          { scene with cluster := crowded }).exchanges.map Exchange.query ∧
      reports ((reconcile config Sample.profiles).run Cluster.world scene).exchanges =
        reports ((reconcile config moreProfiles).run Cluster.world
          { scene with cluster := crowded }).exchanges :=
  ⟨by decide +kernel, irrelevant_ignored Cluster.apart indistinct_crowded rfl⟩

end Cycle

end NodeRelief
