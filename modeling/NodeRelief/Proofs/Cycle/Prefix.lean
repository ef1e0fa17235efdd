import NodeRelief.Proofs.Cycle.Bounds
import NodeRelief.Proofs.Cycle.Selection

/-! # One eviction or many

A cycle that is to evict a single pod does what one does that may evict many, until a pod is evicted. With
that it ends, while the other goes on. -/

namespace NodeRelief

variable {α β γ σ : Type}

namespace Plan

/-! ## The results of a plan -/

/-- Whatever is replied, the plan fails or comes to a result of that kind. -/
def Yields (P : α → Prop) : Plan α → Prop
  | .done a => P a
  | .fail _ => True
  | .ask _ k => ∀ r, (k r).Yields P

namespace Yields

variable {P P' : α → Prop} {p : Plan α}

theorem mono (h : p.Yields P) (hP : ∀ a, P a → P' a) : p.Yields P' := by
  induction p with
  | done a => exact hP a h
  | fail f => trivial
  | ask q k ih => exact fun r => ih r (h r)

theorem bind {R : β → Prop} {k : α → Plan β} (h : p.Yields P) (hk : ∀ a, P a → (k a).Yields R) :
    (p >>= k).Yields R := by
  induction p with
  | done a => exact hk a h
  | fail f => trivial
  | ask q next ih => exact fun r => ih r (h r)

theorem anything (p : Plan α) : p.Yields fun _ => True := by
  induction p with
  | done a => trivial
  | fail f => trivial
  | ask q k ih => exact ih

theorem of_course (h : ∀ (l : List (Exchange Unit)) a, p.Course l (.ok a) → P a) : p.Yields P := by
  induction p with
  | done a => exact h [] a (.done a)
  | fail f => trivial
  | ask q k ih => exact fun r => ih r fun l a hl => h _ a (.ask () r hl)

theorem run (h : p.Yields P) (w : World σ) (s : σ) {a : α} (returned : (p.run w s).outcome = .ok a) :
    P a := by
  induction p generalizing s with
  | done b =>
      cases returned
      exact h
  | fail f => cases returned
  | ask q k ih => exact ih _ (h _) _ returned

end Yields

/-! ## Plans cut short -/

/-- The plan asks what the other asks, until it comes to a result `a` while `Q a` is what the other has still
to do. -/
inductive Curtails (Q : α → Plan β → Prop) : Plan α → Plan β → Prop where
  | ends {a p} (h : Q a p) : Curtails Q (.done a) p
  | fail (f) : Curtails Q (.fail f) (.fail f)
  | ask {q k k'} (h : ∀ r, Curtails Q (k r) (k' r)) : Curtails Q (.ask q k) (.ask q k')

namespace Curtails

variable {Q : α → Plan β → Prop} {p : Plan α} {p' : Plan β}

theorem bind {δ : Type} {Q' : γ → Plan δ → Prop} {k : α → Plan γ} {k' : β → Plan δ} (h : Curtails Q p p')
    (hk : ∀ a m, Q a m → Curtails Q' (k a) (m >>= k')) : Curtails Q' (p >>= k) (p' >>= k') := by
  induction h with
  | ends h => exact hk _ _ h
  | fail f => exact .fail f
  | ask h ih => exact .ask ih

/-- Both begin with the same plan. -/
theorem after {P : γ → Prop} {first : Plan γ} {k : γ → Plan α} {k' : γ → Plan β} (h : first.Yields P)
    (hk : ∀ a, P a → Curtails Q (k a) (k' a)) : Curtails Q (first >>= k) (first >>= k') := by
  induction first with
  | done a => exact hk a h
  | fail f => exact .fail f
  | ask q next ih => exact .ask fun r => ih r (h r)

/-- When the plan comes to its result, the other has made the same exchanges. -/
theorem reaches (h : Curtails Q p p') (w : World σ) (s : σ) {a : α}
    (returned : (p.run w s).outcome = .ok a) :
    ∃ m, Q a m ∧ p'.Reaches w s (p.run w s).exchanges m (p.run w s).state := by
  induction h generalizing s with
  | ends h =>
      cases returned
      exact ⟨_, h, .here ..⟩
  | fail f => cases returned
  | ask h ih =>
      obtain ⟨m, hm, reaches⟩ := ih _ _ returned
      exact ⟨m, hm, .ask reaches⟩

end Curtails

end Plan

/-! ## Configurations -/

theorem Config.eq_of_draft {c c' : Config} (h : c.toConfigDraft = c'.toConfigDraft) : c = c' := by
  cases c
  cases c'
  cases h
  rfl

/-- The configurations differ in nothing but the number of evictions. -/
def Config.Alike (c c' : Config) : Prop :=
  c'.toConfigDraft = { c.toConfigDraft with nodeCap := c'.nodeCap, single := c'.single }

/-- The configuration, but with a single eviction. -/
def Config.modest (c : Config) : Config :=
  ⟨{ c.toConfigDraft with nodeCap := .int 1, single := .bool true }, rfl, c.recheckInterval_pos⟩

namespace Cycle

open Plan (Yields Curtails)

variable {c c' : Config} {profiles : ProfileStore} {n : Node} {p : Pod} {pods ranked : List Pod}
  {nodes : List Node}

theorem modest_of_alike (alike : c.Alike c') : c'.modest = c.modest :=
  Config.eq_of_draft <|
    congrArg (fun d : ConfigDraft => { d with nodeCap := .int 1, single := .bool true }) alike

/-! What does not depend on the number of evictions is the same. -/

theorem visit_of_alike (alike : c.Alike c') : visit c' profiles n p = visit c profiles n p := by
  change visit c'.modest profiles n p = visit c.modest profiles n p
  rw [modest_of_alike alike]

theorem opening_of_alike (alike : c.Alike c') : opening c' profiles = opening c profiles := by
  change opening c'.modest profiles = opening c.modest profiles
  rw [modest_of_alike alike]

theorem recheck_of_alike (alike : c.Alike c') : recheck c' = recheck c := by
  change recheck c'.modest = recheck c.modest
  rw [modest_of_alike alike]

theorem rank_of_alike (alike : c.Alike c') (pods : List Pod) :
    Ranking.rank profiles c'.workloadLabel pods = Ranking.rank profiles c.workloadLabel pods := by
  rw [alike]

/-! ## What has been taken stays taken -/

theorem yields_walk (taken : List String) :
    (walk c profiles n taken ranked).Yields fun w => taken <+: w.evicted := by
  induction ranked generalizing taken with
  | nil => exact List.prefix_refl taken
  | cons p rest ih =>
      rw [walk_cons]
      split
      · exact List.prefix_refl taken
      refine (Yields.anything _).bind fun verdict _ => ?_
      cases verdict with
      | passed => exact ih taken
      | evicted =>
          rw [proceed]
          split
          · exact List.prefix_append ..
          · exact (ih _).mono fun w hw => (List.prefix_append ..).trans hw
      | rateLimited => exact List.prefix_refl taken
      | cancelled => exact List.prefix_refl taken

theorem yields_resume {evicted : List String} {rest : List Node} (w : Walk)
    (next : ∀ evicted, (relieve c profiles pods evicted rest).Yields fun r => evicted <+: r.evicted) :
    (resume c profiles pods evicted rest w).Yields fun r => evicted ++ w.evicted <+: r.evicted := by
  rw [resume]
  split
  · exact List.prefix_refl _
  · exact List.prefix_refl _
  · split
    · exact List.prefix_refl _
    · exact next _

theorem yields_relieve (evicted : List String) :
    (relieve c profiles pods evicted nodes).Yields fun r => evicted <+: r.evicted := by
  induction nodes generalizing evicted with
  | nil =>
      cases evicted with
      | nil => exact List.prefix_refl _
      | cons key evicted => exact List.prefix_refl _
  | cons n rest ih =>
      rw [relieve_cons]
      refine (Yields.anything _).bind fun ranked _ => ?_
      refine (Yields.anything _).bind fun w _ => ?_
      exact (yields_resume w ih).mono fun r hr => (List.prefix_append ..).trans hr

/-! ## The loops -/

/-- Where a plan ends whose result took some pods, the other is at its end too; or one pod was taken, and
whatever the other comes to takes that pod first. -/
def Parts (taken : α → List String) (a : α) (m : Plan α) : Prop :=
  taken a = [] ∧ m = pure a ∨ ∃ key, taken a = [key] ∧ m.Yields fun b => [key] <+: taken b

/-- The walk that is to take a single pod is at its end when it has taken one. -/
def WalkParts (w : Walk) (m : Plan Walk) : Prop :=
  Parts Walk.evicted w m ∧ (w.evicted ≠ [] → w.ending = .finished)

theorem curtails_walk (alike : c.Alike c') (single : c.isSingle = true) (many : c'.isSingle = false) :
    Curtails WalkParts (walk c profiles n [] ranked) (walk c' profiles n [] ranked) := by
  induction ranked with
  | nil => exact .ends ⟨.inl ⟨rfl, rfl⟩, by simp⟩
  | cons p rest ih =>
      -- No cap is spent before the first pod is taken, so both come to the same visit.
      rw [walk_cons, walk_cons, if_neg (by simp [isSpent_zero]), if_neg (by simp [isSpent_zero]),
        visit_of_alike alike]
      refine .after (Yields.anything _) fun verdict _ => ?_
      cases verdict with
      | passed => exact ih
      | evicted =>
          rw [proceed, proceed, if_pos single, if_neg (by simp [many])]
          exact .ends ⟨.inr ⟨p.key, rfl, yields_walk [p.key]⟩, fun _ => rfl⟩
      | rateLimited => exact .ends ⟨.inl ⟨rfl, rfl⟩, by simp⟩
      | cancelled => exact .ends ⟨.inl ⟨rfl, rfl⟩, by simp⟩

theorem curtails_resume (alike : c.Alike c') (single : c.isSingle = true) {w : Walk} {m : Plan Walk}
    {rest : List Node} (parts : WalkParts w m)
    (next : Curtails (Parts CycleResult.evicted) (relieve c profiles pods [] rest)
      (relieve c' profiles pods [] rest)) :
    Curtails (Parts CycleResult.evicted) (resume c profiles pods [] rest w)
      (m >>= resume c' profiles pods [] rest) := by
  obtain ⟨⟨untaken, rfl⟩ | ⟨key, taken, yields⟩, finished⟩ := parts
  · obtain ⟨evicted, ending⟩ := w
    obtain rfl : evicted = [] := untaken
    rw [pure_bind]
    cases ending with
    | rateLimited =>
        have same : c'.afterRateLimit = c.afterRateLimit := by rw [alike]
        simp only [resume, same]
        exact .ends (.inl ⟨rfl, rfl⟩)
    | cancelled =>
        simp only [resume, recheck_of_alike alike]
        exact .ends (.inl ⟨rfl, rfl⟩)
    | finished =>
        rw [resume_finished (.inr rfl), resume_finished (.inr rfl)]
        exact next
  · obtain ⟨evicted, ending⟩ := w
    obtain rfl : evicted = [key] := taken
    obtain rfl : ending = .finished := finished (by simp)
    simp only [resume, single]
    refine .ends (.inr ⟨key, rfl, yields.bind fun w' first => ?_⟩)
    exact (yields_resume w' yields_relieve).mono fun r hr => first.trans hr

theorem curtails_relieve (alike : c.Alike c') (single : c.isSingle = true) (many : c'.isSingle = false) :
    Curtails (Parts CycleResult.evicted) (relieve c profiles pods [] nodes)
      (relieve c' profiles pods [] nodes) := by
  induction nodes with
  | nil =>
      refine .ends (.inl ⟨rfl, ?_⟩)
      simp [relieve, recheck_of_alike alike]
  | cons n rest ih =>
      rw [relieve_cons, relieve_cons, rank_of_alike alike]
      refine .after (Yields.anything _) fun ranked _ => ?_
      exact (curtails_walk alike single many).bind fun w m parts => curtails_resume alike single parts ih

/-- A cycle that ends with its opening takes nothing. -/
theorem yields_opening (c : Config) (profiles : ProfileStore) :
    (opening c profiles).Yields fun o => ∀ r, o = .inl r → r.evicted = [] := by
  refine .of_course fun l o hl r ho => ?_
  subst ho
  cases opens_of_course hl <;> rfl

theorem curtails_reconcile (alike : c.Alike c') (single : c.isSingle = true)
    (many : c'.isSingle = false) :
    Curtails (Parts CycleResult.evicted) (reconcile c profiles) (reconcile c' profiles) := by
  rw [reconcile_eq, reconcile_eq, opening_of_alike alike]
  refine .after (yields_opening c profiles) fun o untaken => ?_
  match o, untaken with
  | .inl r, untaken => exact .ends (.inl ⟨untaken r rfl, rfl⟩)
  | .inr (nodes, pods), _ => exact curtails_relieve alike single many

/-! ## Two runs -/

/-- A run that comes to the result `r` is a part of one that comes to `r'`: they have the same exchanges, as
long as there are any, and the same pod is the first to be evicted. -/
structure Precedes (run run' : Run σ CycleResult) (r r' : CycleResult) : Prop where
  exchanges : run.exchanges <+: run'.exchanges
  evicted : r.evicted = r'.evicted.take 1
  /-- The runs part with the first eviction only. -/
  same : r'.evicted = [] → run = run'

theorem precedes_of_curtails {p p' : Plan CycleResult} (h : Curtails (Parts CycleResult.evicted) p p')
    {w : World σ} {s : σ} {r r' : CycleResult} (hr : (p.run w s).outcome = .ok r)
    (hr' : (p'.run w s).outcome = .ok r') : Precedes (p.run w s) (p'.run w s) r r' := by
  obtain ⟨m, parts, reaches⟩ := h.reaches w s hr
  have run := reaches.run_eq
  rcases parts with ⟨untaken, rfl⟩ | ⟨key, taken, yields⟩
  · have same : p.run w s = p'.run w s := by
      rw [run]
      generalize p.run w s = first at hr
      obtain ⟨o, s', l⟩ := first
      cases hr
      exact congrArg (Run.mk _ _) (List.append_nil l).symm
    rw [same] at hr
    cases hr.symm.trans hr'
    exact ⟨same ▸ List.prefix_refl _, by rw [untaken]; rfl, fun _ => same⟩
  · rw [run] at hr' ⊢
    obtain ⟨others, first⟩ := yields.run w _ hr'
    refine ⟨List.prefix_append .., ?_, ?_⟩
    · rw [taken, ← first]
      rfl
    · intro none
      rw [none] at first
      cases first

/-! In a cycle that is to evict a single pod the cap does not matter. -/

theorem walk_of_single (alike : c.Alike c') (single : c.isSingle = true) (single' : c'.isSingle = true) :
    walk c' profiles n [] ranked = walk c profiles n [] ranked := by
  induction ranked with
  | nil => rfl
  | cons p rest ih =>
      rw [walk_cons, walk_cons, if_neg (by simp [isSpent_zero]), if_neg (by simp [isSpent_zero]),
        visit_of_alike alike]
      apply bind_congr
      intro verdict
      cases verdict with
      | passed => exact ih
      | evicted => rw [proceed, proceed, if_pos single, if_pos single']
      | rateLimited => rfl
      | cancelled => rfl

theorem relieve_of_single (alike : c.Alike c') (single : c.isSingle = true)
    (single' : c'.isSingle = true) :
    relieve c' profiles pods [] nodes = relieve c profiles pods [] nodes := by
  induction nodes with
  | nil => simp [relieve, recheck_of_alike alike]
  | cons n rest ih =>
      rw [relieve_cons, relieve_cons, rank_of_alike alike]
      apply bind_congr
      intro ranked
      rw [walk_of_single alike single single']
      apply bind_congr
      rintro ⟨evicted, ending⟩
      have limited : c'.afterRateLimit = c.afterRateLimit := by rw [alike]
      have after : c'.afterEviction = c.afterEviction := by rw [alike]
      cases ending with
      | rateLimited => simp only [resume, limited]
      | cancelled => simp only [resume, recheck_of_alike alike]
      | finished =>
          by_cases none : evicted = []
          · rw [resume_finished (.inr none), resume_finished (.inr none), none]
            exact ih
          · simp [resume, single, single', after, none]

theorem reconcile_of_single (alike : c.Alike c') (single : c.isSingle = true)
    (single' : c'.isSingle = true) : reconcile c' profiles = reconcile c profiles := by
  rw [reconcile_eq, reconcile_eq, opening_of_alike alike]
  apply bind_congr
  intro o
  match o with
  | .inl r => rfl
  | .inr (nodes, pods) => exact relieve_of_single alike single single'

/-- In any world a run that is to evict a single pod is a part of the one that may evict many, whatever the
caps are, and with another cap it is the same. -/
theorem single_precedes_many (c : Config) (profiles : ProfileStore) (single : c.isSingle = true) :
    (∀ {σ : Type} (w : World σ) (s : σ) (c' : Config) (r r' : CycleResult), c.Alike c' →
      c'.isSingle = false → ((reconcile c profiles).run w s).outcome = .ok r →
      ((reconcile c' profiles).run w s).outcome = .ok r' →
        Precedes ((reconcile c profiles).run w s) ((reconcile c' profiles).run w s) r r') ∧
    ∀ c' : Config, c.Alike c' → c'.isSingle = true → reconcile c' profiles = reconcile c profiles := by
  refine ⟨fun w s c' r r' alike many hr hr' => ?_, fun c' alike => reconcile_of_single alike single⟩
  exact precedes_of_curtails (curtails_reconcile alike single many) hr hr'

namespace Sample

/-- A pod without an owner. -/
def bare (name node : String) : Pod := { pod name node with owners := [] }

/-- Two degraded nodes with a pod each that nothing holds back. -/
def loose : Scene Cluster :=
  { scene with cluster := { cluster with pods := .ofList [bare "web-1" "node-a", bare "web-2" "node-b"] } }

end Sample

open Sample in
/-- Of two pods the one cycle evicts the first, and the other both. -/
theorem single_precedes_many_sample :
    ∃ r r', ((reconcile config Sample.profiles).run Cluster.world loose).outcome = .ok r ∧
      ((reconcile sweep Sample.profiles).run Cluster.world loose).outcome = .ok r' ∧
      r.evicted = ["shop/web-1"] ∧ r'.evicted = ["shop/web-1", "shop/web-2"] ∧
      Precedes ((reconcile config Sample.profiles).run Cluster.world loose)
        ((reconcile sweep Sample.profiles).run Cluster.world loose) r r' := by
  have one : ((reconcile config Sample.profiles).run Cluster.world loose).outcome =
      .ok ⟨standardDelay, ["shop/web-1"], false, false, none⟩ := by decide +kernel
  have both : ((reconcile sweep Sample.profiles).run Cluster.world loose).outcome =
      .ok ⟨standardDelay, ["shop/web-1", "shop/web-2"], false, false, none⟩ := by decide +kernel
  obtain ⟨precedes, -⟩ := single_precedes_many config Sample.profiles rfl
  exact ⟨_, _, one, both, rfl, rfl, precedes Cluster.world loose sweep _ _ rfl rfl one both⟩

end Cycle

end NodeRelief
