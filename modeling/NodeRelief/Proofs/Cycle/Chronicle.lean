import NodeRelief.Proofs.Cycle.Opening

/-! # The visits of a cycle

A cycle is its opening and then one visit after the other. Only the last visit can end it, and the result
tells which pods the visits took and how the last one ended. -/

namespace NodeRelief.Cycle

variable {σ : Type}

/-! ## Visits in a row -/

/-- A candidate that was visited, with the exchanges of the visit and how it ended. -/
structure Visited (σ : Type) where
  node : Node
  pod : Pod
  exchanges : List (Exchange σ)
  ending : Except Fault Verdict

namespace Visited

/-- Whether the cycle may go on after the visit. -/
def isPassing (v : Visited σ) : Bool :=
  match v.ending with
  | .ok .passed | .ok .evicted => true
  | _ => false

/-- The key of the pod, if the visit took it. -/
def taken? (v : Visited σ) : Option String :=
  if v.ending = .ok .evicted then some v.pod.key else none

/-- The visit went one of the ways through the code. -/
def Made (c : Config) (profiles : ProfileStore) (v : Visited σ) : Prop :=
  Visits c profiles v.node v.pod v.exchanges v.ending

end Visited

/-- The exchanges of visits in a row. -/
def exchangesOf (vs : List (Visited σ)) : List (Exchange σ) := vs.flatMap Visited.exchanges

/-- The keys of the pods that visits in a row took. -/
def takenOf (vs : List (Visited σ)) : List String := vs.filterMap Visited.taken?

@[simp] theorem exchangesOf_nil : exchangesOf ([] : List (Visited σ)) = [] := rfl

@[simp] theorem exchangesOf_append (vs vs' : List (Visited σ)) :
    exchangesOf (vs ++ vs') = exchangesOf vs ++ exchangesOf vs' :=
  List.flatMap_append

@[simp] theorem exchangesOf_singleton (v : Visited σ) : exchangesOf [v] = v.exchanges :=
  List.flatMap_singleton ..

@[simp] theorem takenOf_append (vs vs' : List (Visited σ)) :
    takenOf (vs ++ vs') = takenOf vs ++ takenOf vs' :=
  List.filterMap_append ..

/-- What holds throughout every one of the visits holds throughout all of them. -/
theorem throughout_exchangesOf {P : List (Exchange σ) → Exchange σ → Prop} {h : List (Exchange σ)}
    {vs : List (Visited σ)} (hvs : ∀ v ∈ vs, ∀ h, Throughout P h v.exchanges) :
    Throughout P h (exchangesOf vs) := by
  induction vs generalizing h with
  | nil => trivial
  | cons v vs ih =>
      rw [← List.singleton_append, exchangesOf_append, exchangesOf_singleton]
      refine Throughout.append_iff.mpr ⟨hvs v (by simp) h, ih fun v hv => hvs v (by simp [hv])⟩

variable {c : Config} {profiles : ProfileStore}

/-- Visits in a row of which every one but the last let the cycle go on. -/
structure Follows (c : Config) (profiles : ProfileStore) (vs : List (Visited σ)) : Prop where
  made : ∀ v ∈ vs, v.Made c profiles
  passing : ∀ v ∈ vs.dropLast, v.isPassing = true

/-- What holds of the visits that let the cycle go on and of the last one holds of all. -/
theorem Follows.forall_of_last {P : Visited σ → Prop} {init : List (Visited σ)} {last : Visited σ}
    (hvs : Follows c profiles (init ++ [last])) (passing : ∀ v, v.isPassing = true → P v)
    (hl : P last) : ∀ v ∈ init ++ [last], P v := by
  intro v hv
  rcases List.mem_append.mp hv with hv | hv
  · exact passing v (hvs.passing v (by simpa using hv))
  · rwa [List.mem_singleton.mp hv]

/-- What visits in a row come to. -/
inductive Concludes (c : Config) (vs : List (Visited σ)) : Except Fault CycleResult → Prop where
  | finished (passing : ∀ v ∈ vs, v.isPassing = true) :
      Concludes c vs (.ok (settled c (takenOf vs)))
  | rateLimited {init last} (hvs : vs = init ++ [last]) (limited : last.ending = .ok .rateLimited) :
      Concludes c vs (.ok ⟨c.afterRateLimit, takenOf vs, true, false, none⟩)
  | cancelled {init last} (hvs : vs = init ++ [last]) (cancelled : last.ending = .ok .cancelled) :
      Concludes c vs (.ok (recheck c (takenOf vs) true none))
  | unranked (passing : ∀ v ∈ vs, v.isPassing = true) (f) : Concludes c vs (.error f)
  | failed {init last f} (hvs : vs = init ++ [last]) (failed : last.ending = .error f) :
      Concludes c vs (.error f)

/-- The exchanges of a cycle and its outcome: it ends with its opening, or visits follow that. -/
inductive Chronicle (c : Config) (profiles : ProfileStore) :
    List (Exchange σ) → Except Fault CycleResult → Prop where
  | broken {k f} (hk : Opens c profiles k (.error f)) : Chronicle c profiles k (.error f)
  | closed {k r} (hk : Opens c profiles k (.ok (.inl r))) : Chronicle c profiles k (.ok r)
  | visited {k nodes pods vs o} (hk : Opens c profiles k (.ok (.inr (nodes, pods))))
      (hvs : Follows c profiles vs) (ho : Concludes c vs o) :
      Chronicle c profiles (k ++ exchangesOf vs) o

/-- What every opening and every visit keeps to, a cycle keeps to. -/
theorem Chronicle.throughout {P : List (Exchange σ) → Exchange σ → Prop} {l : List (Exchange σ)}
    {o : Except Fault CycleResult} (h : Chronicle c profiles l o)
    (opening : ∀ k o, Opens c profiles k o → Throughout P [] k)
    (visit : ∀ v : Visited σ, v.Made c profiles → ∀ h, Throughout P h v.exchanges) :
    Throughout P [] l := by
  cases h with
  | broken hk => exact opening _ _ hk
  | closed hk => exact opening _ _ hk
  | visited hk hvs ho =>
      refine Throughout.append_iff.mpr ⟨opening _ _ hk, throughout_exchangesOf fun v hv => ?_⟩
      exact visit v (hvs.made v hv)

/-! ## The loops -/

/-- After the exchanges `k` of the opening, visits took the pods of these keys, and the cycle goes on. -/
def Passes (c : Config) (profiles : ProfileStore) (k : List (Exchange σ)) (evicted : List String)
    (l : List (Exchange σ)) : Prop :=
  ∃ vs, l = k ++ exchangesOf vs ∧ takenOf vs = evicted ∧
    ∀ v ∈ vs, v.Made c profiles ∧ v.isPassing = true

/-- After the exchanges `k` of the opening, visits came to an outcome. -/
def Ends (c : Config) (profiles : ProfileStore) (k : List (Exchange σ))
    (o : Except Fault CycleResult) (l : List (Exchange σ)) : Prop :=
  ∃ vs, l = k ++ exchangesOf vs ∧ Follows c profiles vs ∧ Concludes c vs o

section Loops

variable {k l l' : List (Exchange σ)} {evicted : List String} {n : Node} {p : Pod}

theorem Passes.visit {v : Verdict} (h : Passes c profiles k evicted l)
    (hv : Visits c profiles n p l' (.ok v)) (passing : v = .passed ∨ v = .evicted) :
    Passes c profiles k (if v = .evicted then evicted ++ [p.key] else evicted) (l ++ l') := by
  obtain ⟨vs, rfl, rfl, hvs⟩ := h
  refine ⟨vs ++ [⟨n, p, l', .ok v⟩], by simp, ?_, ?_⟩
  · rcases passing with rfl | rfl
    · simp [takenOf, Visited.taken?]
    · simp [takenOf, Visited.taken?]
  · intro x hx
    rcases List.mem_append.mp hx with hx | hx
    · exact hvs x hx
    · cases List.mem_singleton.mp hx
      refine ⟨hv, ?_⟩
      rcases passing with rfl | rfl
      · rfl
      · rfl

/-- The last visit may end the cycle. -/
theorem Passes.last {v : Except Fault Verdict} (h : Passes c profiles k evicted l)
    (hv : Visits c profiles n p l' v) (untaken : v ≠ .ok .evicted) :
    ∃ init, l ++ l' = k ++ exchangesOf (init ++ [⟨n, p, l', v⟩]) ∧
      takenOf (init ++ [⟨n, p, l', v⟩]) = evicted ∧
      Follows c profiles (init ++ [⟨n, p, l', v⟩]) := by
  obtain ⟨vs, rfl, rfl, hvs⟩ := h
  refine ⟨vs, by simp, ?_, ?_, ?_⟩
  · have none : Visited.taken? ⟨n, p, l', v⟩ = none := if_neg untaken
    rw [takenOf_append, takenOf, takenOf, List.filterMap_cons_none none]
    exact List.append_nil _
  · intro x hx
    rcases List.mem_append.mp hx with hx | hx
    · exact (hvs x hx).1
    · cases List.mem_singleton.mp hx
      exact hv
  · rw [List.dropLast_concat]
    exact fun x hx => (hvs x hx).2

theorem Passes.ends (h : Passes c profiles k evicted l) :
    Ends c profiles k (.ok (settled c evicted)) l := by
  obtain ⟨vs, rfl, rfl, hvs⟩ := h
  refine ⟨vs, rfl, ⟨fun v hv => (hvs v hv).1, fun v hv => (hvs v (List.dropLast_subset _ hv)).2⟩, ?_⟩
  exact .finished fun v hv => (hvs v hv).2

theorem Passes.cancelled (h : Passes c profiles k evicted l)
    (hv : Visits c profiles n p l' (.ok .cancelled)) :
    Ends c profiles k (.ok (recheck c evicted true none)) (l ++ l') := by
  obtain ⟨init, hl, rfl, follows⟩ := h.last hv (by simp)
  exact ⟨_, hl, follows, .cancelled rfl rfl⟩

theorem Passes.rateLimited (h : Passes c profiles k evicted l)
    (hv : Visits c profiles n p l' (.ok .rateLimited)) :
    Ends c profiles k (.ok ⟨c.afterRateLimit, evicted, true, false, none⟩) (l ++ l') := by
  obtain ⟨init, hl, rfl, follows⟩ := h.last hv (by simp)
  exact ⟨_, hl, follows, .rateLimited rfl rfl⟩

theorem Passes.failed {f : Fault} (h : Passes c profiles k evicted l)
    (hv : Visits c profiles n p l' (.error f)) : Ends c profiles k (.error f) (l ++ l') := by
  obtain ⟨init, hl, -, follows⟩ := h.last hv (by simp)
  exact ⟨_, hl, follows, .failed rfl rfl⟩

theorem settled_of_ne_nil (h : evicted ≠ []) :
    settled c evicted = ⟨c.afterEviction, evicted, false, false, none⟩ := by
  rw [settled, if_neg (by simpa using h)]

variable {w : World σ} {s : σ} {nodes : List Node}

theorem passes_walk {ranked : List Pod} (start : Passes c profiles k evicted l) :
    (walk c profiles n [] ranked).Ensures w l s
      (WalkKeeps c (fun evicted _ l _ => Passes c profiles k evicted l)
        (fun o l _ => Ends c profiles k o l) evicted nodes) := by
  refine walk_ensures (I := fun taken _ l _ => Passes c profiles k (evicted ++ taken) l) ?_ ?_
    (by simpa using start)
  · rintro taken ranked l s passes -
    refine ⟨fun _ some => ?_, fun _ => passes⟩
    rw [← settled_of_ne_nil (by simp [some])]
    exact passes.ends
  · rintro taken p rest l s passes -
    apply Plan.Ensures.of_course
    rintro l' v s' hl' -
    have visits := visits_of_course hl'
    match v, visits with
    | .ok .passed, visits => exact passes.visit visits (.inl rfl)
    | .ok .evicted, visits =>
      have taken := passes.visit visits (.inr rfl)
      rw [if_pos rfl, List.append_assoc] at taken
      refine ⟨fun single => ⟨fun _ _ => ?_, fun goesOn => ?_⟩, fun _ => taken⟩
      · rw [← settled_of_ne_nil (by simp)]
        exact taken.ends
      · simp [single] at goesOn
    | .ok .rateLimited, visits => exact passes.rateLimited visits
    | .ok .cancelled, visits => exact passes.cancelled visits
    | .error f, visits => exact passes.failed visits

theorem ends_relieve {pods : List Pod} (start : Passes c profiles k evicted l) :
    (relieve c profiles pods evicted nodes).Ensures w l s fun o l _ => Ends c profiles k o l := by
  refine relieve_ensures (J := fun evicted _ l _ => Passes c profiles k evicted l) ?_ ?_ ?_ start
  · intro evicted l s passes
    exact passes.ends
  · rintro evicted n rest l s f ⟨vs, rfl, -, hvs⟩ -
    refine ⟨vs, rfl, ⟨fun v hv => (hvs v hv).1, fun v hv => ?_⟩, .unranked (fun v hv => (hvs v hv).2) f⟩
    exact (hvs v (List.dropLast_subset _ hv)).2
  · intro evicted n rest l s ranked passes _
    exact passes_walk passes

/-- In any world a cycle is an opening and visits. -/
theorem chronicle_reconcile (c : Config) (profiles : ProfileStore) (w : World σ) (s : σ) :
    Chronicle c profiles ((reconcile c profiles).run w s).exchanges
      ((reconcile c profiles).run w s).outcome := by
  change (reconcile c profiles).Ensures w [] s fun o l _ => Chronicle c profiles l o
  apply reconcile_ensures
  intro k o s' hk _
  match o, hk with
  | .error f, hk => exact .broken hk
  | .ok (.inl r), hk => exact .closed hk
  | .ok (.inr (nodes, pods)), hk =>
    have start : Passes c profiles k [] k := ⟨[], by simp, rfl, by simp⟩
    rw [Leaves]
    refine (ends_relieve start).mono ?_
    rintro o l s ⟨vs, rfl, follows, concludes⟩
    exact .visited hk follows concludes

end Loops

end NodeRelief.Cycle
