import NodeRelief.Proofs.Cycle.Account

/-! # How a cycle goes on

At every candidate it is known what is left of the cycle. A setback is reported, and then what is left is
the walk down the candidates that are ranked after it: nothing was taken, and nothing else is given up. -/

namespace NodeRelief.Cycle

variable {σ : Type}

/-- With the exchanges `h` behind it, the cycle that began in `s` is through with the candidate `p` of a
node and walks on down the ones that are ranked after it, having evicted the pods that were accepted. -/
def Turns (c : Config) (profiles : ProfileStore) (w : World σ) (s : σ) (h : List (Exchange σ))
    (p : Pod) : Prop :=
  ∃ pods n nodes before after evicted taken s',
    Ranking.rank profiles c.workloadLabel (candidates n pods) = .ok (before ++ p :: after) ∧
      evicted ++ taken = accepted h ∧
      Plan.Reaches w (reconcile c profiles) s h
        (walk c profiles n taken after >>= resume c profiles pods evicted nodes) s'

/-- The exchanges of the cycle begin with those. -/
theorem Turns.isPrefix {c : Config} {profiles : ProfileStore} {w : World σ} {s : σ}
    {h : List (Exchange σ)} {p : Pod} (turns : Turns c profiles w s h p) :
    ∃ rest, ((reconcile c profiles).run w s).exchanges = h ++ rest := by
  obtain ⟨pods, n, nodes, before, after, evicted, taken, s', -, -, reaches⟩ := turns
  rw [reaches.run_eq]
  exact ⟨_, rfl⟩

/-- After a setback with a candidate the cycle reports it and turns to the next one. -/
def MovesOn (c : Config) (profiles : ProfileStore) (w : World σ) (s : σ) (h : List (Exchange σ))
    (e : Exchange σ) : Prop :=
  e.isSetback = true → ∃ p event s', Setback c p e event ∧
    Turns c profiles w s (h ++ [e, ⟨s', .record event, .ok ()⟩]) p

variable {c : Config} {profiles : ProfileStore} {w : World σ} {s₀ s : σ}
  {evicted : List String} {l k : List (Exchange σ)}

theorem movesOn_of_plain {h : List (Exchange σ)} (hl : Plain l) :
    Throughout (MovesOn c profiles w s₀) h l := by
  refine .of_forall fun e he k setback => ?_
  rw [e.isSetback_of_isPlain (hl e he)] at setback
  cases setback

/-- What is left of a cycle with the exchanges `l` behind it is the plan `left`, to be run from `s`. -/
structure Underway (c : Config) (profiles : ProfileStore) (w : World σ) (s₀ : σ)
    (evicted : List String) (l : List (Exchange σ)) (left : Plan CycleResult) (s : σ) : Prop where
  account : Account evicted l
  movesOn : Throughout (MovesOn c profiles w s₀) [] l
  reaches : Plan.Reaches w (reconcile c profiles) s₀ l left s

/-- What a cycle that came to a result has to show for it. -/
def Closes (c : Config) (profiles : ProfileStore) (w : World σ) (s₀ : σ) :
    Except Fault CycleResult → List (Exchange σ) → Prop
  | .ok r, l => Balances r l ∧ Throughout (MovesOn c profiles w s₀) [] l
  | .error _, _ => True

/-! ## The walk down a node -/

section Walk

variable {pods : List Pod} {n : Node} {nodes : List Node} {taken : List String}
  {before rest : List Pod} {p : Pod}

/-- A visit that comes to a verdict leaves what the walk does after it. -/
theorem Reaches.visit {v : Verdict} {s' : σ} (unspent : c.isSpent taken.length = false)
    (h : Plan.Reaches w (reconcile c profiles) s₀ l
      (walk c profiles n taken (p :: rest) >>= resume c profiles pods evicted nodes) s)
    (hk : (visit c profiles n p).Course k (.ok v)) (hl : w.Leads s k s') :
    Plan.Reaches w (reconcile c profiles) s₀ (l ++ k)
      (proceed c profiles n taken p rest v >>= resume c profiles pods evicted nodes) s' := by
  have visited := Plan.Reaches.of_course hk hl
  rw [walk_cons, unspent] at h
  exact h.trans ((visited.bind (proceed c profiles n taken p rest)).bind _)

/-- The only setback of a visit is the last but one of its exchanges, and the visit passes on. -/
theorem movesOn_visit {v : Verdict} {s' : σ}
    (ranked : Ranking.rank profiles c.workloadLabel (candidates n pods) =
      .ok (before ++ p :: rest))
    (hv : Outline c p k v) (account : Account (evicted ++ taken) l)
    (reaches : Plan.Reaches w (reconcile c profiles) s₀ (l ++ k)
      (proceed c profiles n taken p rest v >>= resume c profiles pods evicted nodes) s') :
    Throughout (MovesOn c profiles w s₀) l k := by
  have visited := account.visit hv
  cases hv with
  | plain hk hv => exact movesOn_of_plain hk
  | @setback k e event hk he hb s =>
      refine Throughout.append_iff.mpr ⟨movesOn_of_plain hk, fun _ => ?_, ?_⟩
      · have turned : Turns c profiles w s₀ (l ++ (k ++ [e, ⟨s, .record event, .ok ()⟩])) p :=
          ⟨pods, n, nodes, before, rest, evicted, taken, s', ranked, visited.evicted.symm, reaches⟩
        rw [← List.append_assoc] at turned
        exact ⟨p, event, s, he, turned⟩
      · exact movesOn_of_plain (plain_record s event)
  | @limited k s message hk hb s' event =>
      refine Throughout.append_iff.mpr ⟨movesOn_of_plain hk, fun setback => ?_, ?_⟩
      · cases setback
      · exact movesOn_of_plain (plain_record s' event)
  | @evicted k s k' hk hb hk' =>
      refine Throughout.append_iff.mpr ⟨movesOn_of_plain hk, fun setback => ?_, ?_⟩
      · cases setback
      · exact movesOn_of_plain hk'

theorem closes_of_account {r : CycleResult} (account : Account evicted l)
    (movesOn : Throughout (MovesOn c profiles w s₀) [] l) (he : r.evicted = evicted)
    (hr : r.rateLimited = false) (hf : r.error = none) : Closes c profiles w s₀ (.ok r) l :=
  ⟨account.balances he hr hf, movesOn⟩

/-- The cycle stays underway with every visit of a walk, and closes where the walk ends it. -/
theorem underway_walk {ranked : List Pod}
    (hr : Ranking.rank profiles c.workloadLabel (candidates n pods) = .ok ranked)
    (start : Underway c profiles w s₀ evicted l
      (walk c profiles n [] ranked >>= resume c profiles pods evicted nodes) s) :
    (walk c profiles n [] ranked).Ensures w l s
      (WalkKeeps c
        (fun evicted nodes l s =>
          Underway c profiles w s₀ evicted l (relieve c profiles pods evicted nodes) s)
        (fun o l _ => Closes c profiles w s₀ o l) evicted nodes) := by
  refine walk_ensures (I := fun taken left l s => (∃ before, ranked = before ++ left) ∧
    Underway c profiles w s₀ (evicted ++ taken) l
      (walk c profiles n taken left >>= resume c profiles pods evicted nodes) s) ?_ ?_ ?_
  · rintro taken left l s ⟨-, underway⟩ stops
    have reaches := underway.reaches
    rw [walk_of_stops stops] at reaches
    refine ⟨fun _ _ => closes_of_account underway.account underway.movesOn rfl rfl rfl, fun goesOn => ?_⟩
    change Plan.Reaches _ _ _ _ (resume c profiles pods evicted nodes ⟨taken, .finished⟩) _ at reaches
    rw [resume_finished goesOn] at reaches
    exact ⟨underway.account, underway.movesOn, reaches⟩
  · rintro taken p rest l s ⟨⟨before, rfl⟩, underway⟩ unspent
    apply Plan.Ensures.of_course
    intro k v s' hk hl
    cases v with
    | error f => exact trivial
    | ok v =>
        have outline := (visits_of_course hk).outline
        have account := underway.account.visit outline
        have reaches := Reaches.visit unspent underway.reaches hk hl
        have movesOn := Throughout.append_iff.mpr
          ⟨underway.movesOn, movesOn_visit hr outline underway.account reaches⟩
        have ranked : ∃ before', before ++ p :: rest = before' ++ rest := ⟨before ++ [p], by simp⟩
        cases v with
        | passed => exact ⟨ranked, account, movesOn, reaches⟩
        | cancelled => exact closes_of_account account movesOn rfl rfl rfl
        | rateLimited => exact ⟨account.balances rfl rfl rfl, movesOn⟩
        | evicted =>
            rw [List.append_assoc] at account
            refine ⟨fun single => ?_, fun many => ⟨ranked, account, movesOn, ?_⟩⟩
            · have ended : ¬ (c.isSingle = false ∨ taken ++ [p.key] = []) := by simp [single]
              exact ⟨fun _ _ => closes_of_account account movesOn rfl rfl rfl, fun h => absurd h ended⟩
            · simpa [proceed, many] using reaches
  · exact ⟨⟨[], rfl⟩, by simpa using start⟩

end Walk

/-! ## The whole cycle -/

theorem underway_relieve {pods : List Pod} {nodes : List Node}
    (start : Underway c profiles w s₀ evicted l (relieve c profiles pods evicted nodes) s) :
    (relieve c profiles pods evicted nodes).Ensures w l s fun o l _ =>
      Closes c profiles w s₀ o l := by
  refine relieve_ensures (J := fun evicted nodes l s =>
    Underway c profiles w s₀ evicted l (relieve c profiles pods evicted nodes) s) ?_ ?_ ?_ start
  · intro evicted l s underway
    have result : (settled c evicted).evicted = evicted ∧ (settled c evicted).rateLimited = false ∧
        (settled c evicted).error = none := by
      simp only [settled]
      split
      · next none => exact ⟨(List.isEmpty_iff.mp none).symm, rfl, rfl⟩
      · exact ⟨rfl, rfl, rfl⟩
    exact closes_of_account underway.account underway.movesOn result.1 result.2.1 result.2.2
  · intro evicted n rest l s f underway _
    exact trivial
  · intro evicted n rest l s ranked underway hr
    have reaches := underway.reaches
    rw [relieve_cons, hr] at reaches
    exact underway_walk hr ⟨underway.account, underway.movesOn, reaches⟩

theorem Announces.plain {events : List Event} {u : Except Fault Unit} (h : Announces events l u) :
    Plain l := by
  induction h with
  | done => simp [Plain]
  | told h s ih =>
      intro e he
      rcases List.mem_cons.mp he with rfl | he
      · rfl
      · exact ih e he
  | failed s f => simp [Plain, Exchange.isPlain]

theorem plain_announced {nodes : List Node} {events : List Event} {u : Except Fault Unit}
    {s s' : σ} (hk : Announces events k u) (hl : Plain l) :
    Plain (⟨s, .cancelled, false⟩ :: ⟨s', .call .listNodes, .ok nodes⟩ :: (k ++ l)) := by
  have opened : Plain ([⟨s, .cancelled, false⟩, ⟨s', .call .listNodes, .ok nodes⟩] :
      List (Exchange σ)) := by simp [Plain, Exchange.isPlain]
  exact opened.append (hk.plain.append hl)

theorem Opens.plain {nodes : List Node} {pods : List Pod}
    (h : Opens c profiles l (.ok (.inr (nodes, pods)))) : Plain l := by
  cases h with
  | opened hd hk s s' s'' s₃ => exact plain_announced hk (by simp [Plain, Exchange.isPlain])

theorem closes_of_plain {r : CycleResult} (hl : Plain l) (he : r.evicted = [])
    (hr : r.rateLimited = false) (hf : r.error = none) : Closes c profiles w s₀ (.ok r) l :=
  closes_of_account (.of_plain hl) (movesOn_of_plain hl) he hr hf

/-- A cycle that ends on a list that could not be had. -/
theorem closes_of_unlisted {r : CycleResult} {e : Exchange σ} (hl : Plain l)
    (he : e.isUnlisted = true) (reads : ∀ x ∈ l ++ [e], x.query.isRead = true)
    (hr : r.evicted = []) (unlimited : r.rateLimited = false) (error : r.error.isSome = true) :
    Closes c profiles w s₀ (.ok r) (l ++ [e]) := by
  have none : evictions (l ++ [e]) = [] := by
    rw [evictions_append, hl.evictions]
    exact List.filterMap_eq_nil_iff.mpr fun x hx => by
      rw [List.mem_singleton.mp hx]
      exact e.eviction?_of_isUnlisted he
  refine ⟨⟨?_, ?_, ?_, ?_, fun _ => reads, checked_of_evictions none⟩, ?_⟩
  · rw [accepted, none, hr]
    rfl
  · simp [unlimited, none]
  · simp [none]
  · exact iff_of_true error ⟨e, by simp, he⟩
  · refine Throughout.append_iff.mpr ⟨movesOn_of_plain hl, fun setback => ?_, trivial⟩
    rw [e.isSetback_of_isUnlisted he] at setback
    cases setback

/-- Before there is anything to relieve, a cycle ends without having asked for an eviction; its last
exchange then is the list that could not be had, if any. -/
theorem Opens.closes {r : CycleResult} (h : Opens c profiles l (.ok (.inl r))) :
    Closes c profiles w s₀ (.ok r) l := by
  have reads := h.reads
  cases h with
  | unprofiled hp => exact closes_of_plain (by simp [Plain]) rfl rfl rfl
  | cancelled s => exact closes_of_plain (by simp [Plain, Exchange.isPlain]) rfl rfl rfl
  | nodesUnlisted s s' message =>
      exact closes_of_unlisted (l := [_]) (by simp [Plain, Exchange.isPlain]) rfl reads rfl rfl rfl
  | healthy hd s s' => exact closes_of_plain (by simp [Plain, Exchange.isPlain]) rfl rfl rfl
  | stopped hd hk s s' s'' =>
      exact closes_of_plain (plain_announced hk (by simp [Plain, Exchange.isPlain])) rfl rfl rfl
  | @podsUnlisted nodes n ds k hd hk s s' s'' s₃ message =>
      have asked : Plain ([⟨s'', .cancelled, false⟩] : List (Exchange σ)) := by
        simp [Plain, Exchange.isPlain]
      rw [List.append_cons] at reads ⊢
      exact closes_of_unlisted (plain_announced hk asked) rfl reads rfl rfl rfl

/-- Whatever the world, the result of a cycle agrees with its exchanges, and after every setback the cycle
moves on to the next candidate. -/
theorem closes_reconcile (c : Config) (profiles : ProfileStore) (w : World σ) (s : σ) :
    Closes c profiles w s ((reconcile c profiles).run w s).outcome
      ((reconcile c profiles).run w s).exchanges := by
  change (reconcile c profiles).Ensures w [] s fun o l _ => Closes c profiles w s o l
  rw [reconcile_eq, Plan.ensures_bind]
  apply Plan.Ensures.of_course
  intro k o s' hk hl
  have opens := opens_of_course hk
  have reaches := (Plan.Reaches.of_course hk hl).bind (followUp c profiles)
  rw [← reconcile_eq] at reaches
  match o, opens, reaches with
  | .error f, _, _ => exact trivial
  | .ok (.inl r), opens, _ => exact (Plan.ensures_pure _).mpr opens.closes
  | .ok (.inr (nodes, pods)), opens, reaches =>
    exact underway_relieve ⟨.of_plain opens.plain, movesOn_of_plain opens.plain, reaches⟩

end NodeRelief.Cycle
