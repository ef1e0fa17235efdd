import NodeRelief.Cycle
import NodeRelief.Proofs.Fault
import NodeRelief.Proofs.Plan

/-! # The loops of a cycle

What the walk does about one candidate is a plan of its own, a visit. A property that every visit
keeps holds of the walk down a node, and one that every walk keeps holds of the whole relief. -/

namespace NodeRelief.Cycle

/-! ## Visits -/

/-- How the visit of a candidate ended. -/
inductive Verdict where
  | passed
  | evicted
  | rateLimited
  | cancelled
deriving DecidableEq, Repr

/-- Asks for the eviction of an admitted pod and does what follows from the answer. -/
def attempt (c : Config) (n : Node) (p : Pod) (owner : Option Owner) : Plan Verdict := do
  match ← Eviction.request p c.gracePeriod with
  | .rateLimited _ =>
    Plan.record (.evictionRateLimited p)
    return .rateLimited
  | .failed message =>
    Plan.record (.evictionFailed p (Eviction.told message))
    return .passed
  | .evicted =>
    Plan.record (.podEvicted p n.name)
    coolDown c owner
    return .evicted

/-- What the walk does about one candidate before the cap is reached. -/
def visit (c : Config) (profiles : ProfileStore) (n : Node) (p : Pod) : Plan Verdict := do
  if ← Plan.cancelled then return .cancelled
  if !isEligible c profiles p then return .passed
  let now ← Plan.clock
  let decision ← Admission.evaluate c.cooldownMark p now
  if decision.admitted then attempt c n p decision.owner else return .passed

/-- How the walk goes on after a visit. -/
def proceed (c : Config) (profiles : ProfileStore) (n : Node) (taken : List String) (p : Pod)
    (rest : List Pod) : Verdict → Plan Walk
  | .passed => walk c profiles n taken rest
  | .evicted =>
    if c.isSingle then pure ⟨taken ++ [p.key], .finished⟩
    else walk c profiles n (taken ++ [p.key]) rest
  | .rateLimited => pure ⟨taken, .rateLimited⟩
  | .cancelled => pure ⟨taken, .cancelled⟩

theorem walk_cons (c : Config) (profiles : ProfileStore) (n : Node) (taken : List String) (p : Pod)
    (rest : List Pod) :
    walk c profiles n taken (p :: rest) =
      if c.isSpent taken.length then pure ⟨taken, .finished⟩
      else visit c profiles n p >>= proceed c profiles n taken p rest := by
  rw [walk, visit]
  split
  · rfl
  · simp only [bind_assoc]
    apply bind_congr
    intro cancelled
    cases cancelled with
    | true => rfl
    | false =>
        simp only [Bool.false_eq_true, if_false]
        cases isEligible c profiles p with
        | false => simp [proceed]
        | true =>
            simp only [Bool.not_true, Bool.false_eq_true, if_false, bind_assoc]
            apply bind_congr
            intro now
            apply bind_congr
            intro decision
            cases decision.admitted with
            | false => rfl
            | true =>
                simp only [Bool.not_true, Bool.false_eq_true, if_false, if_true, attempt, bind_assoc]
                apply bind_congr
                intro outcome
                cases outcome with
                | evicted => simp only [bind_assoc]; rfl
                | rateLimited message => simp only [bind_assoc]; rfl
                | failed message => simp only [bind_assoc]; rfl

variable {σ : Type} {w : World σ} {c : Config} {profiles : ProfileStore}

/-! ## Loops -/

/-- The ranking of pods has the same pods in it. -/
theorem perm_of_rank {label : Document} {pods ranked : List Pod}
    (h : Ranking.rank profiles label pods = .ok ranked) : ranked.Perm pods := by
  obtain ⟨keyed, hk, rfl⟩ := Fault.map_eq_ok_iff.mp h
  have same : keyed.map Prod.snd = pods := Fault.map_snd_of_mapM hk
  rw [← same]
  exact (List.mergeSort_perm keyed _).map Prod.snd

/-- Why the walk down a node may end before a visit: nobody is left, or the cap is reached. -/
def Stops (c : Config) (taken : List String) (ranked : List Pod) : Prop :=
  ranked = [] ∨ c.isSpent taken.length = true

theorem walk_of_stops {n : Node} {taken : List String} {ranked : List Pod}
    (h : Stops c taken ranked) : walk c profiles n taken ranked = pure ⟨taken, .finished⟩ := by
  rcases h with rfl | spent
  · rfl
  · cases ranked with
    | nil => rfl
    | cons p rest => rw [walk_cons, if_pos spent]

/-- What a visit has to ensure for the walk to go on from `I` and to end in `Q`. -/
def VisitKeeps (c : Config) (I : List String → List Pod → List (Exchange σ) → σ → Prop)
    (Q : Except Fault Walk → List (Exchange σ) → σ → Prop) (taken : List String) (p : Pod)
    (rest : List Pod) : Except Fault Verdict → List (Exchange σ) → σ → Prop
  | .ok .passed, l, s => I taken rest l s
  | .ok .evicted, l, s =>
    (c.isSingle = true → Q (.ok ⟨taken ++ [p.key], .finished⟩) l s) ∧
      (c.isSingle = false → I (taken ++ [p.key]) rest l s)
  | .ok .rateLimited, l, s => Q (.ok ⟨taken, .rateLimited⟩) l s
  | .ok .cancelled, l, s => Q (.ok ⟨taken, .cancelled⟩) l s
  | .error f, l, s => Q (.error f) l s

/-- The rule of the walk: an invariant of the pods taken and of those still to visit. -/
theorem walk_ensures {n : Node} {I : List String → List Pod → List (Exchange σ) → σ → Prop}
    {Q : Except Fault Walk → List (Exchange σ) → σ → Prop}
    (finish : ∀ taken ranked l s, I taken ranked l s → Stops c taken ranked →
      Q (.ok ⟨taken, .finished⟩) l s)
    (step : ∀ taken p rest l s, I taken (p :: rest) l s → c.isSpent taken.length = false →
      (visit c profiles n p).Ensures w l s (VisitKeeps c I Q taken p rest))
    {taken : List String} {ranked : List Pod} {l : List (Exchange σ)} {s : σ}
    (start : I taken ranked l s) : (walk c profiles n taken ranked).Ensures w l s Q := by
  induction ranked generalizing taken l s with
  | nil => exact (Plan.ensures_pure _).mpr (finish _ _ _ _ start (.inl rfl))
  | cons p rest ih =>
      rw [walk_cons, Plan.ensures_ite]
      constructor
      · intro spent
        exact (Plan.ensures_pure _).mpr (finish _ _ _ _ start (.inr spent))
      · intro unspent
        rw [Plan.ensures_bind]
        refine (step taken p rest l s start (by simpa using unspent)).mono ?_
        intro o l s h
        match o, h with
        | .ok .passed, h => exact ih h
        | .ok .evicted, h =>
          refine (Plan.ensures_ite _ _ _).mpr ⟨fun single => ?_, fun goesOn => ih (h.2 ?_)⟩
          · exact (Plan.ensures_pure _).mpr (h.1 single)
          · simpa using goesOn
        | .ok .rateLimited, h => exact (Plan.ensures_pure _).mpr h
        | .ok .cancelled, h => exact (Plan.ensures_pure _).mpr h
        | .error _, h => exact h

/-- The result when the degraded nodes are through. -/
def settled (c : Config) (evicted : List String) : CycleResult :=
  if evicted.isEmpty then recheck c [] false none else ⟨c.afterEviction, evicted, false, false, none⟩

/-- How the relief goes on after the walk down a node. -/
def resume (c : Config) (profiles : ProfileStore) (pods : List Pod) (evicted : List String)
    (rest : List Node) (w : Walk) : Plan CycleResult :=
  match w.ending with
  | .rateLimited => pure ⟨c.afterRateLimit, evicted ++ w.evicted, true, false, none⟩
  | .cancelled => pure (recheck c (evicted ++ w.evicted) true none)
  | .finished =>
    if c.isSingle && !w.evicted.isEmpty then
      pure ⟨c.afterEviction, evicted ++ w.evicted, false, false, none⟩
    else relieve c profiles pods (evicted ++ w.evicted) rest

theorem resume_finished {pods : List Pod} {evicted taken : List String} {rest : List Node}
    (h : c.isSingle = false ∨ taken = []) :
    resume c profiles pods evicted rest ⟨taken, .finished⟩ =
      relieve c profiles pods (evicted ++ taken) rest := by
  apply if_neg
  intro ended
  rw [Bool.and_eq_true] at ended
  rcases h with many | rfl
  · rw [many] at ended
    cases ended.1
  · cases ended.2

/-- A node without candidates is no exception: its ranking is empty, and so is the walk. -/
theorem relieve_cons (c : Config) (profiles : ProfileStore) (pods : List Pod) (evicted : List String)
    (n : Node) (rest : List Node) :
    relieve c profiles pods evicted (n :: rest) =
      Plan.raise (Ranking.rank profiles c.workloadLabel (candidates n pods)) >>= fun ranked =>
        walk c profiles n [] ranked >>= resume c profiles pods evicted rest := by
  rw [relieve]
  by_cases none : candidates n pods = []
  · have nobody : Ranking.rank profiles c.workloadLabel [] = .ok [] := by
      simp [Ranking.rank, pure, Except.pure]
    have nothing : relieve c profiles pods evicted rest =
        resume c profiles pods evicted rest ⟨[], .finished⟩ := by simp [resume]
    rw [none, nobody]
    exact nothing
  · have some : (candidates n pods).isEmpty = false := by simpa using none
    rw [some]
    apply bind_congr
    intro ranked
    apply bind_congr
    intro w
    obtain ⟨taken, ending⟩ := w
    cases ending <;> rfl

/-- What the walk down a node has to ensure for the relief to go on from `J` and to end in `Q`. -/
def WalkKeeps (c : Config) (J : List String → List Node → List (Exchange σ) → σ → Prop)
    (Q : Except Fault CycleResult → List (Exchange σ) → σ → Prop) (evicted : List String)
    (rest : List Node) : Except Fault Walk → List (Exchange σ) → σ → Prop
  | .ok ⟨taken, .rateLimited⟩, l, s =>
    Q (.ok ⟨c.afterRateLimit, evicted ++ taken, true, false, none⟩) l s
  | .ok ⟨taken, .cancelled⟩, l, s => Q (.ok (recheck c (evicted ++ taken) true none)) l s
  | .ok ⟨taken, .finished⟩, l, s =>
    (c.isSingle = true → taken ≠ [] →
      Q (.ok ⟨c.afterEviction, evicted ++ taken, false, false, none⟩) l s) ∧
    (c.isSingle = false ∨ taken = [] → J (evicted ++ taken) rest l s)
  | .error f, l, s => Q (.error f) l s

/-- The rule of the relief: an invariant of the evicted pods and of the nodes still to relieve. -/
theorem relieve_ensures {pods : List Pod}
    {J : List String → List Node → List (Exchange σ) → σ → Prop}
    {Q : Except Fault CycleResult → List (Exchange σ) → σ → Prop}
    (finish : ∀ evicted l s, J evicted [] l s → Q (.ok (settled c evicted)) l s)
    (unranked : ∀ evicted n rest l s f, J evicted (n :: rest) l s →
      Ranking.rank profiles c.workloadLabel (candidates n pods) = .error f → Q (.error f) l s)
    (step : ∀ evicted n rest l s ranked, J evicted (n :: rest) l s →
      Ranking.rank profiles c.workloadLabel (candidates n pods) = .ok ranked →
      (walk c profiles n [] ranked).Ensures w l s (WalkKeeps c J Q evicted rest))
    {evicted : List String} {nodes : List Node} {l : List (Exchange σ)} {s : σ}
    (start : J evicted nodes l s) : (relieve c profiles pods evicted nodes).Ensures w l s Q := by
  induction nodes generalizing evicted l s with
  | nil => exact (Plan.ensures_pure _).mpr (finish _ _ _ start)
  | cons n rest ih =>
      rw [relieve_cons, Plan.ensures_bind, Plan.ensures_raise]
      cases hr : Ranking.rank profiles c.workloadLabel (candidates n pods) with
      | error f => exact unranked _ _ _ _ _ f start hr
      | ok ranked =>
          change Plan.Ensures _ _ _ _ _
          rw [Plan.ensures_bind]
          refine (step _ _ _ _ _ _ start hr).mono ?_
          intro o l s h
          match o, h with
          | .ok ⟨taken, .rateLimited⟩, h => exact (Plan.ensures_pure _).mpr h
          | .ok ⟨taken, .cancelled⟩, h => exact (Plan.ensures_pure _).mpr h
          | .ok ⟨taken, .finished⟩, h =>
            refine (Plan.ensures_ite _ _ _).mpr ⟨fun ended => ?_, fun goesOn => ih (h.2 ?_)⟩
            · simp only [Bool.and_eq_true, Bool.not_eq_true', List.isEmpty_eq_false_iff] at ended
              exact (Plan.ensures_pure _).mpr (h.1 ended.1 ended.2)
            · simpa [Classical.or_iff_not_imp_left] using goesOn
          | .error _, h => exact h

end NodeRelief.Cycle
