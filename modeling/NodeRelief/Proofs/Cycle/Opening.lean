import NodeRelief.Proofs.Cycle.Course

/-! # The opening of a cycle

Before the first visit a cycle lists what it works on. It changes nothing by that, and it may find that
there is nothing to do. -/

namespace NodeRelief.Cycle

variable {σ : Type}

/-- What a cycle does before it relieves the first node: it comes to its result at once, or to the
degraded nodes and the pods. -/
def opening (c : Config) (profiles : ProfileStore) : Plan (CycleResult ⊕ List Node × List Pod) := do
  if profiles.isEmpty then return .inl (recheck c [] false none)
  if ← Plan.cancelled then return .inl (recheck c [] true none)
  match ← Plan.call .listNodes with
  | .error (.listing message) => return .inl (recheck c [] false (some message))
  | .error f => .fail f
  | .ok nodes =>
    let degraded ← Plan.raise (degraded c nodes)
    Plan.recordAll (degraded.map .nodeDegraded)
    if degraded.isEmpty then return .inl (recheck c [] false none)
    if ← Plan.cancelled then return .inl (recheck c [] true none)
    match ← Plan.call .listPods with
    | .error (.listing message) => return .inl (recheck c [] false (some message))
    | .error f => .fail f
    | .ok pods => return .inr (degraded, pods)

/-- How a cycle goes on after its opening. -/
def followUp (c : Config) (profiles : ProfileStore) :
    CycleResult ⊕ List Node × List Pod → Plan CycleResult
  | .inl r => pure r
  | .inr (nodes, pods) => relieve c profiles pods [] nodes

theorem reconcile_eq (c : Config) (profiles : ProfileStore) :
    reconcile c profiles = opening c profiles >>= followUp c profiles := by
  simp only [reconcile, opening]
  split
  · rfl
  simp only [bind_assoc]
  apply bind_congr
  intro cancelled
  cases cancelled with
  | true => rfl
  | false =>
      simp only [Bool.false_eq_true, if_false, bind_assoc]
      apply bind_congr
      intro r
      cases r with
      | error f => cases f <;> rfl
      | ok nodes =>
        simp only [bind_assoc]
        apply bind_congr
        intro degraded
        apply bind_congr
        intro _
        split
        · rfl
        simp only [bind_assoc]
        apply bind_congr
        intro cancelled
        cases cancelled with
        | true => rfl
        | false =>
          simp only [Bool.false_eq_true, if_false, bind_assoc]
          apply bind_congr
          intro r
          cases r with
          | error f => cases f <;> rfl
          | ok pods => rfl

/-- The exchanges by which events are recorded one after the other, up to the first that fails. -/
inductive Announces : List Event → List (Exchange σ) → Except Fault Unit → Prop where
  | done : Announces [] [] (.ok ())
  | told {e es l o} (h : Announces es l o) (s) : Announces (e :: es) (⟨s, .record e, .ok ()⟩ :: l) o
  | failed {e es} (s f) : Announces (e :: es) [⟨s, .record e, .error f⟩] (.error f)

theorem announces_of_course {es : List Event} {l : List (Exchange σ)} {o : Except Fault Unit}
    (h : (Plan.recordAll es).Course l o) : Announces es l o := by
  induction es generalizing l with
  | nil =>
      obtain ⟨rfl, rfl⟩ := Plan.Course.pure_iff.mp h
      exact .done
  | cons e es ih =>
      rcases Plan.Course.bind_cases h with ⟨f, hf, rfl⟩ | ⟨⟨⟩, l₁, l₂, rfl, h₁, h₂⟩
      · obtain ⟨s, rfl⟩ := Plan.Course.record_iff.mp hf
        exact .failed s f
      · obtain ⟨s, rfl⟩ := Plan.Course.record_iff.mp h₁
        exact .told (ih h₂) s

theorem Announces.records {es : List Event} {l : List (Exchange σ)} {o : Except Fault Unit}
    (h : Announces es l o) : ∀ e ∈ l, e.query.isInspection = true := by
  induction h with
  | done => simp
  | told h s ih => simpa [Query.isInspection] using ih
  | failed s f => simp [Query.isInspection]

/-- The exchanges of the opening, and what it comes to. -/
inductive Opens (c : Config) (profiles : ProfileStore) :
    List (Exchange σ) → Except Fault (CycleResult ⊕ List Node × List Pod) → Prop where
  | unprofiled (hp : profiles.isEmpty = true) :
      Opens c profiles [] (.ok (.inl (recheck c [] false none)))
  | cancelled (s) :
      Opens c profiles [⟨s, .cancelled, true⟩] (.ok (.inl (recheck c [] true none)))
  | nodesUnlisted (s s' message) :
      Opens c profiles
        [⟨s, .cancelled, false⟩, ⟨s', .call .listNodes, .error (.listing message)⟩]
        (.ok (.inl (recheck c [] false (some message))))
  | nodesBroken {f} (hf : ∀ message, f ≠ .listing message) (s s') :
      Opens c profiles [⟨s, .cancelled, false⟩, ⟨s', .call .listNodes, .error f⟩] (.error f)
  | unmarked {nodes f} (hd : degraded c nodes = .error f) (s s') :
      Opens c profiles [⟨s, .cancelled, false⟩, ⟨s', .call .listNodes, .ok nodes⟩] (.error f)
  | unannounced {nodes ds k f} (hd : degraded c nodes = .ok ds)
      (hk : Announces (ds.map .nodeDegraded) k (.error f)) (s s') :
      Opens c profiles (⟨s, .cancelled, false⟩ :: ⟨s', .call .listNodes, .ok nodes⟩ :: k) (.error f)
  | healthy {nodes} (hd : degraded c nodes = .ok []) (s s') :
      Opens c profiles [⟨s, .cancelled, false⟩, ⟨s', .call .listNodes, .ok nodes⟩]
        (.ok (.inl (recheck c [] false none)))
  | stopped {nodes ds k} (hd : degraded c nodes = .ok ds)
      (hk : Announces (ds.map .nodeDegraded) k (.ok ())) (s s' s'') :
      Opens c profiles (⟨s, .cancelled, false⟩ :: ⟨s', .call .listNodes, .ok nodes⟩ ::
        (k ++ [⟨s'', .cancelled, true⟩])) (.ok (.inl (recheck c [] true none)))
  | podsUnlisted {nodes n ds k} (hd : degraded c nodes = .ok (n :: ds))
      (hk : Announces ((n :: ds).map .nodeDegraded) k (.ok ())) (s s' s'' s₃ message) :
      Opens c profiles (⟨s, .cancelled, false⟩ :: ⟨s', .call .listNodes, .ok nodes⟩ ::
        (k ++ [⟨s'', .cancelled, false⟩, ⟨s₃, .call .listPods, .error (.listing message)⟩]))
        (.ok (.inl (recheck c [] false (some message))))
  | podsBroken {nodes ds k f} (hd : degraded c nodes = .ok ds)
      (hk : Announces (ds.map .nodeDegraded) k (.ok ())) (hf : ∀ message, f ≠ .listing message)
      (s s' s'' s₃) :
      Opens c profiles (⟨s, .cancelled, false⟩ :: ⟨s', .call .listNodes, .ok nodes⟩ ::
        (k ++ [⟨s'', .cancelled, false⟩, ⟨s₃, .call .listPods, .error f⟩])) (.error f)
  | opened {nodes ds k pods} (hd : degraded c nodes = .ok ds)
      (hk : Announces (ds.map .nodeDegraded) k (.ok ())) (s s' s'' s₃) :
      Opens c profiles (⟨s, .cancelled, false⟩ :: ⟨s', .call .listNodes, .ok nodes⟩ ::
        (k ++ [⟨s'', .cancelled, false⟩, ⟨s₃, .call .listPods, .ok pods⟩])) (.ok (.inr (ds, pods)))

variable {c : Config} {profiles : ProfileStore} {l : List (Exchange σ)}
  {o : Except Fault (CycleResult ⊕ List Node × List Pod)}

theorem opens_of_course (h : (opening c profiles).Course l o) : Opens c profiles l o := by
  simp only [opening] at h
  split at h
  · next hp =>
    obtain ⟨rfl, rfl⟩ := Plan.Course.pure_iff.mp h
    exact .unprofiled hp
  obtain ⟨s, cancelled, l₁, rfl, h₁⟩ := Plan.Course.cancelled_cases h
  clear h
  cases cancelled with
  | true =>
      obtain ⟨rfl, rfl⟩ := Plan.Course.pure_iff.mp h₁
      exact .cancelled s
  | false =>
      obtain ⟨s', r, l₂, rfl, h₂⟩ := Plan.Course.call_cases h₁
      clear h₁
      cases r with
      | error f =>
        cases f with
        | listing message =>
          obtain ⟨rfl, rfl⟩ := Plan.Course.pure_iff.mp h₂
          exact .nodesUnlisted s s' message
        | _ =>
          obtain ⟨rfl, rfl⟩ := Plan.Course.fail_iff.mp h₂
          exact .nodesBroken (by simp) s s'
      | ok nodes =>
        rcases Plan.Course.raise_bind_cases h₂ with ⟨f, hd, rfl, rfl⟩ | ⟨ds, hd, h₃⟩
        · exact .unmarked hd s s'
        rcases h₃.bind_cases with ⟨f, hf, rfl⟩ | ⟨⟨⟩, k, l₃, rfl, hk, h₄⟩
        · exact .unannounced hd (announces_of_course hf) s s'
        have hk := announces_of_course hk
        split at h₄
        · next healthy =>
          obtain rfl := List.isEmpty_iff.mp healthy
          obtain ⟨rfl, rfl⟩ := Plan.Course.pure_iff.mp h₄
          cases hk
          exact .healthy hd s s'
        next some =>
        obtain ⟨n, ds, rfl⟩ := List.exists_cons_of_ne_nil fun none => some (List.isEmpty_iff.mpr none)
        obtain ⟨s'', cancelled, l₄, rfl, h₅⟩ := Plan.Course.cancelled_cases h₄
        clear h₄ h₃ h₂
        cases cancelled with
        | true =>
          obtain ⟨rfl, rfl⟩ := Plan.Course.pure_iff.mp h₅
          exact .stopped hd hk s s' s''
        | false =>
          obtain ⟨s₃, r, l₅, rfl, h₆⟩ := Plan.Course.call_cases h₅
          clear h₅
          cases r with
          | error f =>
            cases f with
            | listing message =>
              obtain ⟨rfl, rfl⟩ := Plan.Course.pure_iff.mp h₆
              exact .podsUnlisted hd hk s s' s'' s₃ message
            | _ =>
              obtain ⟨rfl, rfl⟩ := Plan.Course.fail_iff.mp h₆
              exact .podsBroken hd hk (by simp) s s' s'' s₃
          | ok pods =>
            obtain ⟨rfl, rfl⟩ := Plan.Course.pure_iff.mp h₆
            exact .opened hd hk s s' s'' s₃

/-- The opening changes nothing. -/
theorem Opens.reads (h : Opens c profiles l o) : ∀ e ∈ l, e.query.isRead = true := by
  have told {es k u} (hk : Announces es k u) (e : Exchange σ) (he : e ∈ k) : e.query.isRead = true :=
    Query.isRead_of_isInspection (hk.records e he)
  cases h with
  | unannounced hd hk s s' => simpa [Query.isRead] using told hk
  | stopped hd hk s s' s'' => simpa [Query.isRead, or_imp, forall_and] using told hk
  | podsUnlisted hd hk s s' s'' s₃ message =>
      simpa [Query.isRead, or_imp, forall_and] using told hk
  | podsBroken hd hk hf s s' s'' s₃ => simpa [Query.isRead, or_imp, forall_and] using told hk
  | opened hd hk s s' s'' s₃ => simpa [Query.isRead, or_imp, forall_and] using told hk
  | _ => simp [Query.isRead]

/-- The nodes and pods of a cycle are the listed ones. -/
theorem Opens.of_opened {ds : List Node} {pods : List Pod}
    (h : Opens c profiles l (.ok (.inr (ds, pods)))) :
    ∃ s s' nodes, degraded c nodes = .ok ds ∧ ⟨s, .call .listNodes, .ok nodes⟩ ∈ l ∧
      ⟨s', .call .listPods, .ok pods⟩ ∈ l := by
  cases h with
  | opened hd hk s s' s'' s₃ =>
      refine ⟨s', s₃, _, hd, ?_, ?_⟩
      · exact List.mem_cons_of_mem _ (List.mem_cons_self ..)
      · simp

/-- What the opening has to lead to for the cycle to end in `Q`. -/
def Leaves (c : Config) (profiles : ProfileStore) (w : World σ)
    (Q : Except Fault CycleResult → List (Exchange σ) → σ → Prop) (l : List (Exchange σ)) (s : σ) :
    Except Fault (CycleResult ⊕ List Node × List Pod) → Prop
  | .error f => Q (.error f) l s
  | .ok (.inl r) => Q (.ok r) l s
  | .ok (.inr (nodes, pods)) => (relieve c profiles pods [] nodes).Ensures w l s Q

theorem reconcile_ensures {w : World σ} {s : σ}
    {Q : Except Fault CycleResult → List (Exchange σ) → σ → Prop}
    (h : ∀ k o s', Opens c profiles k o → w.Leads s k s' → Leaves c profiles w Q (l ++ k) s' o) :
    (reconcile c profiles).Ensures w l s Q := by
  rw [reconcile_eq, Plan.ensures_bind]
  apply Plan.Ensures.of_course
  intro k o s' hk hl
  have leaves := h k o s' (opens_of_course hk) hl
  match o, leaves with
  | .error f, leaves => exact leaves
  | .ok (.inl r), leaves => exact (Plan.ensures_pure _).mpr leaves
  | .ok (.inr (nodes, pods)), leaves => exact leaves

end NodeRelief.Cycle
