import NodeRelief.Proofs.Cycle.Opening

/-! # What a visit comes to

The exchanges of a visit, as far as they matter to what a cycle accounts for: whether an eviction was asked
for and how it was answered, and whether the candidate was given up for a call that failed. -/

namespace NodeRelief

variable {σ : Type}

/-! ## Requests for evictions -/

/-- The pod that an exchange asks to evict, and what is answered. -/
def Exchange.eviction? : Exchange σ → Option (Pod × Except Fault Unit)
  | ⟨_, .call (.evict p _), r⟩ => some (p, r)
  | _ => none

theorem Exchange.evictee?_eq (e : Exchange σ) :
    e.query.evictee? = e.eviction?.map Prod.fst := by
  obtain ⟨s, q, r⟩ := e
  cases q with
  | call call => cases call <;> rfl
  | _ => rfl

def evictions (l : List (Exchange σ)) : List (Pod × Except Fault Unit) :=
  l.filterMap Exchange.eviction?

@[simp] theorem evictions_append (l l' : List (Exchange σ)) :
    evictions (l ++ l') = evictions l ++ evictions l' :=
  List.filterMap_append ..

/-- The key of a pod whose eviction was accepted. -/
def acceptedKey? : Pod × Except Fault Unit → Option String
  | (p, .ok ()) => some p.key
  | (_, .error _) => none

/-- The keys of the pods that were evicted, in order. -/
def accepted (l : List (Exchange σ)) : List String := (evictions l).filterMap acceptedKey?

@[simp] theorem accepted_append (l l' : List (Exchange σ)) :
    accepted (l ++ l') = accepted l ++ accepted l' := by
  rw [accepted, evictions_append, List.filterMap_append]
  rfl

def isRateLimited : Except Fault Unit → Bool
  | .error (.rateLimited _) => true
  | _ => false

theorem Eviction.eq_of_outcome?_rateLimited {a : Except Fault Unit} {message : String}
    (h : outcome? a = some (.rateLimited message)) : a = .error (.rateLimited message) := by
  simp only [outcome?] at h
  split at h
  · cases h
  · cases h
    rfl
  · cases h
  · cases h
  · cases h

theorem Eviction.of_outcome?_failed {p : Pod} {a : Except Fault Unit} {message : String}
    (h : outcome? a = some (.failed message)) :
    acceptedKey? (p, a) = none ∧ isRateLimited a = false := by
  simp only [outcome?] at h
  split at h
  · cases h
  · cases h
  · exact ⟨rfl, rfl⟩
  · exact ⟨rfl, rfl⟩
  · cases h

/-! ## Lists that could not be had -/

/-- Whether the nodes or the pods were asked for in vain. -/
def Exchange.isUnlisted : Exchange σ → Bool
  | ⟨_, .call .listNodes, .error _⟩ => true
  | ⟨_, .call .listPods, .error _⟩ => true
  | _ => false

/-- Whether a candidate is given up for its budgets, which could not be had, or for its eviction, which
was neither accepted nor put off. -/
def Exchange.isSetback : Exchange σ → Bool
  | ⟨_, .call (.listBudgets _), .error _⟩ => true
  | ⟨_, .call (.evict _ _), .error f⟩ => !isRateLimited (.error f)
  | _ => false

/-- Whether an exchange neither asks for an eviction nor for a list in vain. -/
def Exchange.isPlain : Exchange σ → Bool
  | ⟨_, .call (.evict _ _), _⟩ => false
  | ⟨_, .call .listNodes, .error _⟩ => false
  | ⟨_, .call .listPods, .error _⟩ => false
  | ⟨_, .call (.listBudgets _), .error _⟩ => false
  | _ => true

namespace Exchange

variable {e : Exchange σ}

theorem eviction?_of_isPlain (h : e.isPlain = true) : e.eviction? = none := by
  simp only [eviction?]
  split
  · cases h
  · rfl

theorem eviction?_of_isUnlisted (h : e.isUnlisted = true) : e.eviction? = none := by
  simp only [eviction?]
  split
  · cases h
  · rfl

theorem isSetback_of_isUnlisted (h : e.isUnlisted = true) : e.isSetback = false := by
  simp only [isSetback]
  split
  · cases h
  · cases h
  · rfl

theorem isUnlisted_of_isPlain (h : e.isPlain = true) : e.isUnlisted = false := by
  simp only [isUnlisted]
  split
  · cases h
  · cases h
  · rfl

theorem isSetback_of_isPlain (h : e.isPlain = true) : e.isSetback = false := by
  simp only [isSetback]
  split
  · cases h
  · cases h
  · rfl

end Exchange

/-- Exchanges that neither ask for an eviction nor for a list in vain. -/
def Plain (l : List (Exchange σ)) : Prop := ∀ e ∈ l, e.isPlain = true

namespace Plain

variable {l l' : List (Exchange σ)}

theorem append (h : Plain l) (h' : Plain l') : Plain (l ++ l') := by
  intro e he
  rcases List.mem_append.mp he with he | he
  · exact h e he
  · exact h' e he

theorem evictions (h : Plain l) : evictions l = [] :=
  List.filterMap_eq_nil_iff.mpr fun e he => Exchange.eviction?_of_isPlain (h e he)

theorem accepted (h : Plain l) : accepted l = [] := by
  rw [NodeRelief.accepted, h.evictions]
  rfl

end Plain

/-! ## The outline of a visit -/

namespace Cycle

/-- An eviction is asked for right after the budgets of the pod's namespace were listed. -/
def Checked (h : List (Exchange σ)) (e : Exchange σ) : Prop :=
  ∀ p g, e.query = .call (.evict p g) → ∃ k s bs, h = k ++ [⟨s, .call (.listBudgets p.ns), .ok bs⟩]

/-- What is given up about a candidate, and the report of it. -/
inductive Setback (c : Config) (p : Pod) : Exchange σ → Event → Prop where
  | unchecked (s message) :
      Setback c p ⟨s, .call (.listBudgets p.ns), .error (.listing message)⟩
        (.budgetCheckFailed p message)
  | unevicted {a message} (ha : Eviction.outcome? a = some (.failed message)) (s) :
      Setback c p ⟨s, .call (.evict p c.gracePeriod), a⟩
        (.evictionFailed p (Eviction.told message))

/-- The exchanges of a visit that comes to a verdict, as far as they matter to the account. -/
inductive Outline (c : Config) (p : Pod) : List (Exchange σ) → Verdict → Prop where
  | plain {k v} (hk : Plain k) (hv : v = .passed ∨ v = .cancelled) : Outline c p k v
  | setback {k e event} (hk : Plain k) (he : Setback c p e event) (hb : Checked k e) (s) :
      Outline c p (k ++ [e, ⟨s, .record event, .ok ()⟩]) .passed
  | limited {k s message} (hk : Plain k)
      (hb : Checked k ⟨s, .call (.evict p c.gracePeriod), .error (.rateLimited message)⟩)
      (s' event) :
      Outline c p (k ++ [⟨s, .call (.evict p c.gracePeriod), .error (.rateLimited message)⟩,
        ⟨s', .record event, .ok ()⟩]) .rateLimited
  | evicted {k s k'} (hk : Plain k) (hb : Checked k ⟨s, .call (.evict p c.gracePeriod), .ok ()⟩)
      (hk' : Plain k') :
      Outline c p (k ++ ⟨s, .call (.evict p c.gracePeriod), .ok ()⟩ :: k') .evicted

variable {c : Config} {profiles : ProfileStore} {n : Node} {p : Pod} {owner : Option Owner}
  {l : List (Exchange σ)}

theorem plain_of_knows (h : Admission.Knows p l owner) : Plain l := by
  intro e he
  obtain ⟨id, hq⟩ := h.reads e he
  obtain ⟨s, q, a⟩ := e
  subst hq
  rfl

theorem CoolsDown.plain {u : Except Fault Unit} (h : CoolsDown c owner l u) : Plain l := by
  cases h with
  | unowned => simp [Plain]
  | timeless s f => simp [Plain, Exchange.isPlain]
  | recorded hl s hu =>
      cases hl with
      | unreadable hd => simp [Plain, Exchange.isPlain]
      | endless hd hn => simp [Plain, Exchange.isPlain]
      | written hd hn s s' r hv => simp [Plain, Exchange.isPlain]
      | refused hd hn s message s' r hv => simp [Plain, Exchange.isPlain]
      | broken hd hn hf s => simp [Plain, Exchange.isPlain]

/-- What a pod is not admitted for is reported; only budgets that could not be had are a setback. -/
theorem outline_of_rejected {now : Instant} {d : Decision} {k : List (Exchange σ)} (hk : Plain k)
    (h : Admission.Judges c.cooldownMark p now l (.ok d)) (hd : d.admitted = false) :
    Outline c p (k ++ l) .passed := by
  generalize ho : Except.ok d = o at h
  cases h with
  | unresolved hr hf => cases ho
  | unreadable ho' hc => cases ho
  | cooling ho' hc s r message hr =>
      refine .plain (hk.append ((plain_of_knows ho').append ?_)) (.inl rfl)
      simp [Plain, Exchange.isPlain]
  | free ho' hc hv s =>
      cases ho
      cases hd
  | @hindered l owner bs e message ho' hc hv s s' r d' hr =>
      rw [← ho, Fault.map_eq_ok_iff] at hr
      obtain ⟨⟨⟩, rfl, -⟩ := hr
      have reads := hk.append (plain_of_knows ho')
      cases bs with
      | ok bs =>
          have listed : Plain ([⟨s, .call (.listBudgets p.ns), .ok bs⟩,
              ⟨s', .record e, .ok ()⟩] : List (Exchange σ)) := by simp [Plain, Exchange.isPlain]
          rw [← List.append_assoc]
          exact .plain (reads.append listed) (.inl rfl)
      | error f =>
          cases f with
          | listing text =>
            cases hv
            rw [← List.append_assoc]
            exact .setback reads (.unchecked s message) (fun _ _ hq => (by cases hq)) s'
          | _ => cases hv
  | unclear ho' hc hf hv s => cases ho

theorem outline_of_attempts {v : Verdict} {k : List (Exchange σ)} (hk : Plain k)
    (hb : ∃ k' s bs, k = k' ++ [⟨s, .call (.listBudgets p.ns), .ok bs⟩])
    (h : Attempts c n p owner l (.ok v)) : Outline c p (k ++ l) v := by
  have checked (s : σ) (a : Except Fault Unit) : Checked k ⟨s, .call (.evict p c.gracePeriod), a⟩ := by
    rintro p' g ⟨⟩
    exact hb
  generalize hv : Except.ok v = o at h
  cases h with
  | @rateLimited a message ha s s' r v' hr =>
      rw [← hv, Fault.map_eq_ok_iff] at hr
      obtain ⟨⟨⟩, rfl, rfl⟩ := hr
      obtain rfl := Eviction.eq_of_outcome?_rateLimited ha
      exact .limited hk (checked _ _) s' _
  | failed ha s s' r hr =>
      rw [← hv, Fault.map_eq_ok_iff] at hr
      obtain ⟨⟨⟩, rfl, rfl⟩ := hr
      exact .setback hk (.unevicted ha s) (checked _ _) s'
  | broken ha s => cases hv
  | unreported s s' f => cases hv
  | evicted hl s s' hu =>
      rw [← hv, Fault.map_eq_ok_iff] at hu
      obtain ⟨_, rfl, rfl⟩ := hu
      refine .evicted hk (checked _ _) fun e he => ?_
      rcases List.mem_cons.mp he with rfl | he
      · rfl
      · exact hl.plain e he

theorem Visits.outline {v : Verdict} (h : Visits c profiles n p l (.ok v)) : Outline c p l v := by
  have opened (s s' : σ) (now : Instant) :
      Plain ([⟨s, .cancelled, false⟩, ⟨s', .clock, .ok now⟩] : List (Exchange σ)) := by
    simp [Plain, Exchange.isPlain]
  generalize hv : Except.ok v = o at h
  cases h with
  | cancelled s =>
      cases hv
      exact .plain (by simp [Plain, Exchange.isPlain]) (.inr rfl)
  | ineligible he s =>
      cases hv
      exact .plain (by simp [Plain, Exchange.isPlain]) (.inl rfl)
  | timeless he s s' f => cases hv
  | unjudged he hj s s' => cases hv
  | rejected he hj hd s s' =>
      cases hv
      exact outline_of_rejected (opened s s' _) hj hd
  | @admitted now l l' d v' he hj hd ha s s' =>
      rw [← hv] at ha
      obtain ⟨k, s₀, bs, rfl, hk, -⟩ := hj.of_admitted hd
      have listed : Plain ([⟨s₀, .call (.listBudgets p.ns), .ok bs⟩] : List (Exchange σ)) := by
        simp [Plain, Exchange.isPlain]
      have judged := (opened s s' now).append ((plain_of_knows hk).append listed)
      exact outline_of_attempts judged ⟨_ :: _ :: k, s₀, bs, rfl⟩ ha

end Cycle

end NodeRelief
