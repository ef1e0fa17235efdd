import NodeRelief.Proofs.Cooldown
import NodeRelief.Proofs.Cycle.Walk

/-! # The course of a visit

Which exchanges the parts of a visit make, in which order, and what they come to: one rule for each way
through the code. The rules do not mention a world, so they hold of every run. -/

namespace NodeRelief

/-! ## Kinds of queries -/

/-- Whether a query calls the cluster. -/
def Query.isCall : Query → Bool
  | .call _ => true
  | _ => false

/-- Whether a query asks for no change of the cluster. -/
def Query.isRead : Query → Bool
  | .call (.annotateOwner _ _) | .call (.evict _ _) => false
  | _ => true

/-- Queries by which the gate looks at a pod: about owners and budgets, and what it reports. -/
def Query.isInspection : Query → Bool
  | .call (.readOwner _) | .call (.listBudgets _) | .record _ => true
  | _ => false

theorem Query.isRead_of_isInspection {q : Query} (h : q.isInspection = true) : q.isRead = true := by
  cases q with
  | call c => cases c <;> simp_all [isInspection, isRead]
  | record e => rfl
  | clock => rfl
  | cancelled => rfl

/-- The pod whose eviction a query asks for. -/
def Query.evictee? : Query → Option Pod
  | .call (.evict p _) => some p
  | _ => none

theorem Query.evictee?_of_isRead {q : Query} (h : q.isRead = true) : q.evictee? = none := by
  cases q with
  | call c =>
      cases c with
      | evict p g => cases h
      | _ => rfl
  | _ => rfl

theorem Query.evictee?_eq_some_iff {q : Query} {p : Pod} :
    q.evictee? = some p ↔ ∃ g, q = .call (.evict p g) := by
  constructor
  · intro h
    simp only [evictee?] at h
    split at h
    · next q g => exact ⟨g, by rw [Option.some.inj h]⟩
    · cases h
  · rintro ⟨g, rfl⟩
    rfl

variable {σ : Type}

/-! ## The owner of a pod -/

namespace Ownership

/-- The deployment that a managed controller gives way to, by name. -/
def successor? (kind : OwnerKind) (o : Owner) : Option Document :=
  if kind = .replicaSet then parent? o else none

/-- The reads that tell the owner of a pod, and what they tell. -/
inductive Resolves (p : Pod) : List (Exchange σ) → Except Fault (Option Owner) → Prop where
  | unmanaged (h : reference? p = none) : Resolves p [] (.ok none)
  | unread {kind name} (h : reference? p = some (kind, name)) (s f) :
      Resolves p [⟨s, .call (.readOwner ⟨kind, p.ns, name⟩), .error f⟩] (.error f)
  | direct {kind name o} (h : reference? p = some (kind, name)) (hs : successor? kind o = none) (s) :
      Resolves p [⟨s, .call (.readOwner ⟨kind, p.ns, name⟩), .ok o⟩] (.ok (some o))
  | through {kind name o parent} (h : reference? p = some (kind, name))
      (hs : successor? kind o = some parent) (s s' r) :
      Resolves p [⟨s, .call (.readOwner ⟨kind, p.ns, name⟩), .ok o⟩,
        ⟨s', .call (.readOwner ⟨.deployment, p.ns, parent⟩), r⟩] (r.map some)

theorem resolves_of_course {p : Pod} {l : List (Exchange σ)} {o : Except Fault (Except Fault (Option Owner))}
    (h : (resolve p).Course l o) : ∃ r, o = .ok r ∧ Resolves p l r := by
  simp only [resolve] at h
  cases href : reference? p with
  | none =>
      rw [href] at h
      obtain ⟨rfl, rfl⟩ := Plan.Course.pure_iff.mp h
      exact ⟨_, rfl, .unmanaged href⟩
  | some reference =>
      obtain ⟨kind, name⟩ := reference
      rw [href] at h
      obtain ⟨s, r, l₁, rfl, h₁⟩ := Plan.Course.call_cases h
      clear h
      cases r with
      | error f =>
        obtain ⟨rfl, rfl⟩ := Plan.Course.pure_iff.mp h₁
        exact ⟨_, rfl, .unread href s f⟩
      | ok owner =>
        cases kind with
        | replicaSet =>
          cases hparent : parent? owner with
          | none =>
            simp only [hparent] at h₁
            obtain ⟨rfl, rfl⟩ := Plan.Course.pure_iff.mp h₁
            exact ⟨_, rfl, .direct href (by simp [successor?, hparent]) s⟩
          | some parent =>
            simp only [hparent] at h₁
            obtain ⟨s', r, l₂, rfl, h₂⟩ := Plan.Course.call_cases h₁
            obtain ⟨rfl, rfl⟩ := Plan.Course.pure_iff.mp h₂
            exact ⟨_, rfl, .through href (by simp [successor?, hparent]) s s' r⟩
        | deployment =>
          obtain ⟨rfl, rfl⟩ := Plan.Course.pure_iff.mp h₁
          exact ⟨_, rfl, .direct href rfl s⟩
        | statefulSet =>
          obtain ⟨rfl, rfl⟩ := Plan.Course.pure_iff.mp h₁
          exact ⟨_, rfl, .direct href rfl s⟩

/-- The owner is found out by reading owners. -/
theorem Resolves.reads {p : Pod} {l : List (Exchange σ)} {r : Except Fault (Option Owner)}
    (h : Resolves p l r) : ∀ e ∈ l, ∃ id, e.query = .call (.readOwner id) := by
  cases h with
  | unmanaged h => simp
  | unread h s f => simp
  | direct h hs s => simp
  | through h hs s s' r => simp

theorem Resolves.inspects {p : Pod} {l : List (Exchange σ)} {r : Except Fault (Option Owner)}
    (h : Resolves p l r) : ∀ e ∈ l, e.query.isInspection = true := by
  intro e he
  obtain ⟨id, hq⟩ := h.reads e he
  rw [hq]
  rfl

end Ownership

/-! ## The gate -/

namespace Admission

open Ownership (Resolves)

/-- An owner that cannot be looked up counts as none. -/
def known : Except Fault (Option Owner) → Except Fault (Option Owner)
  | .error (.ownerLookup _) => .ok none
  | r => r

/-- The reads that the gate learns the owner from. -/
def Knows (p : Pod) (l : List (Exchange σ)) (owner : Option Owner) : Prop :=
  ∃ r, Resolves p l r ∧ known r = .ok owner

theorem Knows.reads {p : Pod} {l : List (Exchange σ)} {owner : Option Owner} (h : Knows p l owner) :
    ∀ e ∈ l, ∃ id, e.query = .call (.readOwner id) := by
  obtain ⟨r, hr, -⟩ := h
  exact hr.reads

/-- How a gate that was asked about the budgets reports that they are in the way, and why. -/
def obstacle? (p : Pod) : Except Fault (Option String) → Option (Event × String)
  | .ok (some reason) => some (.budgetViolation p reason, reason)
  | .error (.listing message) => some (.budgetCheckFailed p message, message)
  | _ => none

/-- The exchanges of the gate about a pod, and its decision. -/
inductive Judges (mark : Document) (p : Pod) (now : Instant) :
    List (Exchange σ) → Except Fault Decision → Prop where
  | unresolved {l r f} (hr : Resolves p l r) (hf : known r = .error f) : Judges mark p now l (.error f)
  | unreadable {l owner f} (ho : Knows p l owner) (hc : cooldownOf mark owner now = .error f) :
      Judges mark p now l (.error f)
  | cooling {l owner o t} (ho : Knows p l owner) (hc : cooldownOf mark owner now = .ok (some (o, t)))
      (s r message) {d} (hd : r.map (fun _ => ⟨owner, some (.cooldown, message)⟩) = d) :
      Judges mark p now (l ++ [⟨s, .record (.evictionSkipped p o (Timestamp.write t)), r⟩]) d
  | free {l owner bs} (ho : Knows p l owner) (hc : cooldownOf mark owner now = .ok none)
      (hv : violated? p bs = .ok none) (s) :
      Judges mark p now (l ++ [⟨s, .call (.listBudgets p.ns), .ok bs⟩]) (.ok ⟨owner, none⟩)
  | hindered {l owner bs e message} (ho : Knows p l owner) (hc : cooldownOf mark owner now = .ok none)
      (hv : obstacle? p (bs.bind (violated? p)) = some (e, message)) (s s' r) {d}
      (hd : r.map (fun _ => ⟨owner, some (.budget, message)⟩) = d) :
      Judges mark p now (l ++ [⟨s, .call (.listBudgets p.ns), bs⟩, ⟨s', .record e, r⟩]) d
  | unclear {l owner bs f} (ho : Knows p l owner) (hc : cooldownOf mark owner now = .ok none)
      (hf : bs.bind (violated? p) = .error f) (hv : obstacle? p (.error f) = none) (s) :
      Judges mark p now (l ++ [⟨s, .call (.listBudgets p.ns), bs⟩]) (.error f)

theorem knows_of_course {p : Pod} {l : List (Exchange σ)} {o : Except Fault (Option Owner)}
    (h : (ownerOf p).Course l o) : ∃ r, Resolves p l r ∧ known r = o := by
  simp only [ownerOf] at h
  rcases h.bind_cases with ⟨f, hf, rfl⟩ | ⟨r, l₁, l₂, rfl, h₁, h₂⟩
  · obtain ⟨r, hr, -⟩ := Ownership.resolves_of_course hf
    cases hr
  · obtain ⟨_, ⟨⟩, hr⟩ := Ownership.resolves_of_course h₁
    have known_of (hl : l₂ = []) (ho : o = known r) : ∃ r, Resolves p (l₁ ++ l₂) r ∧ known r = o := by
      rw [hl, List.append_nil]
      exact ⟨r, hr, ho.symm⟩
    cases r with
    | ok owner =>
      obtain ⟨hl, ho⟩ := Plan.Course.pure_iff.mp h₂
      exact known_of hl ho
    | error f =>
      cases f with
      | ownerLookup text =>
        obtain ⟨hl, ho⟩ := Plan.Course.pure_iff.mp h₂
        exact known_of hl ho
      | _ =>
        obtain ⟨hl, ho⟩ := Plan.Course.fail_iff.mp h₂
        exact known_of hl ho

theorem judges_of_course {mark : Document} {p : Pod} {now : Instant} {l : List (Exchange σ)}
    {o : Except Fault Decision} (h : (evaluate mark p now).Course l o) : Judges mark p now l o := by
  simp only [evaluate] at h
  rcases h.bind_cases with ⟨f, hf, rfl⟩ | ⟨owner, l₁, l₂, rfl, h₁, h₂⟩
  · obtain ⟨r, hr, hk⟩ := knows_of_course hf
    exact .unresolved hr hk
  have ho : Knows p l₁ owner := knows_of_course h₁
  rcases Plan.Course.raise_bind_cases h₂ with ⟨f, hc, rfl, rfl⟩ | ⟨cooldown, hc, h₃⟩
  · rw [List.append_nil]
    exact .unreadable ho hc
  cases cooldown with
  | some held =>
      obtain ⟨s, r, rfl, rfl⟩ := Plan.Course.record_pure_cases h₃
      exact .cooling ho hc s r _ rfl
  | none =>
      simp only [decideBudgets, checkBudgets] at h₃
      rw [bind_assoc] at h₃
      obtain ⟨s, bs, l₃, rfl, h₄⟩ := Plan.Course.call_cases h₃
      rw [pure_bind] at h₄
      cases hv : bs.bind (violated? p) with
      | ok reason =>
        rw [hv] at h₄
        cases reason with
        | none =>
          obtain ⟨rfl, rfl⟩ := Plan.Course.pure_iff.mp h₄
          obtain ⟨bs', rfl, hnone⟩ := Fault.bind_eq_ok_iff.mp hv
          exact .free ho hc hnone s
        | some reason =>
          obtain ⟨s', r, rfl, rfl⟩ := Plan.Course.record_pure_cases h₄
          exact .hindered ho hc (by rw [hv]; rfl) s s' r rfl
      | error f =>
        rw [hv] at h₄
        cases f with
        | listing message =>
          obtain ⟨s', r, rfl, rfl⟩ := Plan.Course.record_pure_cases h₄
          exact .hindered ho hc (by rw [hv]; rfl) s s' r rfl
        | _ =>
          obtain ⟨rfl, rfl⟩ := Plan.Course.fail_iff.mp h₄
          exact .unclear ho hc hv rfl s

/-- The gate only inspects. -/
theorem Judges.inspects {mark : Document} {p : Pod} {now : Instant} {l : List (Exchange σ)}
    {o : Except Fault Decision} (h : Judges mark p now l o) :
    ∀ e ∈ l, e.query.isInspection = true := by
  have reads {l : List (Exchange σ)} {owner} (ho : Knows p l owner) :
      ∀ e ∈ l, e.query.isInspection = true := by
    obtain ⟨r, hr, -⟩ := ho
    exact hr.inspects
  cases h with
  | unresolved hr hf => exact hr.inspects
  | unreadable ho hc => exact reads ho
  | cooling ho hc s r message hd =>
      simpa [or_imp, forall_and, Query.isInspection] using reads ho
  | free ho hc hv s => simpa [or_imp, forall_and, Query.isInspection] using reads ho
  | hindered ho hc hv s s' r hd =>
      simpa [or_imp, forall_and, Query.isInspection] using reads ho
  | unclear ho hc hf hv s => simpa [or_imp, forall_and, Query.isInspection] using reads ho

/-- A pod is admitted by a list of budgets of which none forbids its eviction. -/
theorem Judges.of_admitted {mark : Document} {p : Pod} {now : Instant} {l : List (Exchange σ)}
    {d : Decision} (h : Judges mark p now l (.ok d)) (hd : d.admitted = true) :
    ∃ k s bs, l = k ++ [⟨s, .call (.listBudgets p.ns), .ok bs⟩] ∧ Knows p k d.owner ∧
      cooldownOf mark d.owner now = .ok none ∧ violated? p bs = .ok none := by
  generalize ho : Except.ok d = o at h
  cases h with
  | unresolved hr hf => cases ho
  | unreadable ho' hc => cases ho
  | cooling ho' hc s r message hr =>
      rw [← ho, Fault.map_eq_ok_iff] at hr
      obtain ⟨_, -, rfl⟩ := hr
      simp [Decision.admitted] at hd
  | free ho' hc hv s =>
      cases ho
      exact ⟨_, s, _, rfl, ho', hc, hv⟩
  | hindered ho' hc hv s s' r hr =>
      rw [← ho, Fault.map_eq_ok_iff] at hr
      obtain ⟨_, -, rfl⟩ := hr
      simp [Decision.admitted] at hd
  | unclear ho' hc hf hv s => cases ho

end Admission

/-! ## The cooldown of an owner -/

namespace Cooldown

/-- The exchanges by which the next deadline of an owner is written, and what is answered. -/
inductive Records (mark : Document) (interval : Duration) (o : Owner) (now : Instant) :
    List (Exchange σ) → Except Fault (Option Instant × Owner) → Prop where
  | unreadable {f} (hd : deadline mark o = .error f) : Records mark interval o now [] (.error f)
  | endless {previous} (hd : deadline mark o = .ok previous)
      (hn : next? (.utc now) interval previous = none) :
      Records mark interval o now [] (.error Fault.beyondCalendar)
  | written {previous t} (hd : deadline mark o = .ok previous)
      (hn : next? (.utc now) interval previous = some t) (s s' r) {v}
      (hv : r.map (fun _ => (some t, o.annotate (entry mark t))) = v) :
      Records mark interval o now [⟨s, .call (.annotateOwner o (entry mark t)), .ok ()⟩,
        ⟨s', .record (.cooldownSet o (Timestamp.write t)), r⟩] v
  | refused {previous t} (hd : deadline mark o = .ok previous)
      (hn : next? (.utc now) interval previous = some t) (s message s' r) {v}
      (hv : r.map (fun _ => (none, o)) = v) :
      Records mark interval o now
        [⟨s, .call (.annotateOwner o (entry mark t)), .error (.ownerPatch message)⟩,
          ⟨s', .record (.cooldownFailed o message), r⟩] v
  | broken {previous t f} (hd : deadline mark o = .ok previous)
      (hn : next? (.utc now) interval previous = some t) (hf : ∀ message, f ≠ .ownerPatch message)
      (s) : Records mark interval o now [⟨s, .call (.annotateOwner o (entry mark t)), .error f⟩]
        (.error f)

theorem records_of_course {mark : Document} {interval : Duration} {o : Owner} {now : Instant}
    {l : List (Exchange σ)} {v : Except Fault (Option Instant × Owner)}
    (h : (record mark interval o now).Course l v) : Records mark interval o now l v := by
  simp only [record] at h
  rcases Plan.Course.raise_bind_cases h with ⟨f, hd, rfl, rfl⟩ | ⟨previous, hd, h₁⟩
  · exact .unreadable hd
  rcases Plan.Course.raise_bind_cases h₁ with ⟨f, hn, rfl, rfl⟩ | ⟨t, hn, h₂⟩
  · obtain ⟨none, rfl⟩ := Fault.orOutOfRange_eq_error_iff.mp hn
    exact .endless hd none
  have hn := Fault.orOutOfRange_eq_ok_iff.mp hn
  obtain ⟨s, r, l', rfl, h₃⟩ := Plan.Course.call_cases h₂
  cases r with
  | ok written =>
      obtain ⟨s', r, rfl, rfl⟩ := Plan.Course.record_pure_cases h₃
      exact .written hd hn s s' r rfl
  | error f =>
      cases f with
      | ownerPatch message =>
        obtain ⟨s', r, rfl, rfl⟩ := Plan.Course.record_pure_cases h₃
        exact .refused hd hn s message s' r rfl
      | _ =>
        obtain ⟨rfl, rfl⟩ := Plan.Course.fail_iff.mp h₃
        exact .broken hd hn (by simp) s

/-- At most one patch of the owner is asked for, and nothing else. -/
theorem Records.asks {mark : Document} {interval : Duration} {o : Owner} {now : Instant}
    {l : List (Exchange σ)} {v : Except Fault (Option Instant × Owner)}
    (h : Records mark interval o now l v) :
    l = [] ∨ ∃ previous t s a l', deadline mark o = .ok previous ∧
      next? (.utc now) interval previous = some t ∧
      l = ⟨s, .call (.annotateOwner o (entry mark t)), a⟩ :: l' ∧ ∀ e ∈ l', e.query.isRead = true := by
  cases h with
  | unreadable hd => exact .inl rfl
  | endless hd hn => exact .inl rfl
  | written hd hn s s' r hv => exact .inr ⟨_, _, s, _, _, hd, hn, rfl, by simp [Query.isRead]⟩
  | refused hd hn s message s' r hv =>
      exact .inr ⟨_, _, s, _, _, hd, hn, rfl, by simp [Query.isRead]⟩
  | broken hd hn hf s => exact .inr ⟨_, _, s, _, _, hd, hn, rfl, by simp⟩

end Cooldown

/-! ## The visit of a candidate -/

/-- What is made of the answer to a request for an eviction. -/
def Eviction.outcome? : Except Fault Unit → Option EvictionOutcome
  | .ok () => some .evicted
  | .error (.rateLimited message) => some (.rateLimited message)
  | .error (.eviction message) | .error (.evictionFailed message) => some (.failed message)
  | .error _ => none

theorem Eviction.request_cases {p : Pod} {gracePeriod : Document} {l : List (Exchange σ)}
    {o : Except Fault EvictionOutcome} (h : (request p gracePeriod).Course l o) :
    ∃ s r, l = [⟨s, .call (.evict p gracePeriod), r⟩] ∧
      ((∃ outcome, outcome? r = some outcome ∧ o = .ok outcome) ∨
        ∃ f, r = .error f ∧ outcome? r = none ∧ o = .error f) := by
  simp only [request] at h
  obtain ⟨s, r, l', rfl, h₁⟩ := Plan.Course.call_cases h
  clear h
  have answered {outcome : EvictionOutcome} (h : (pure outcome : Plan EvictionOutcome).Course l' o)
      (hr : outcome? r = some outcome) :
      ∃ s' r', ⟨s, .call (.evict p gracePeriod), r⟩ :: l' = [⟨s', .call (.evict p gracePeriod), r'⟩] ∧
        ((∃ outcome, outcome? r' = some outcome ∧ o = .ok outcome) ∨
          ∃ f, r' = .error f ∧ outcome? r' = none ∧ o = .error f) := by
    obtain ⟨rfl, rfl⟩ := Plan.Course.pure_iff.mp h
    exact ⟨s, r, rfl, .inl ⟨outcome, hr, rfl⟩⟩
  cases r with
  | ok accepted => exact answered h₁ rfl
  | error f =>
      cases f with
      | rateLimited message => exact answered h₁ rfl
      | eviction message => exact answered h₁ rfl
      | evictionFailed message => exact answered h₁ rfl
      | _ =>
        obtain ⟨rfl, rfl⟩ := Plan.Course.fail_iff.mp h₁
        exact ⟨s, _, rfl, .inr ⟨_, rfl, rfl, rfl⟩⟩

namespace Cycle

open Admission (Judges)

/-- The exchanges after the eviction of a pod with this owner. -/
inductive CoolsDown (c : Config) :
    Option Owner → List (Exchange σ) → Except Fault Unit → Prop where
  | unowned : CoolsDown c none [] (.ok ())
  | timeless {o} (s f) : CoolsDown c (some o) [⟨s, .clock, .error f⟩] (.error f)
  | recorded {o t l v} (hl : Cooldown.Records c.cooldownMark c.recheckInterval o t l v) (s) {u}
      (hu : v.map (fun _ => ()) = u) : CoolsDown c (some o) (⟨s, .clock, .ok t⟩ :: l) u

/-- The exchanges of an attempt to evict an admitted pod, and how the visit ends with it. -/
inductive Attempts (c : Config) (n : Node) (p : Pod) (owner : Option Owner) :
    List (Exchange σ) → Except Fault Verdict → Prop where
  | rateLimited {a message} (ha : Eviction.outcome? a = some (.rateLimited message)) (s s' r) {v}
      (hv : r.map (fun _ => .rateLimited) = v) :
      Attempts c n p owner [⟨s, .call (.evict p c.gracePeriod), a⟩,
        ⟨s', .record (.evictionRateLimited p), r⟩] v
  | failed {a message} (ha : Eviction.outcome? a = some (.failed message)) (s s' r) {v}
      (hv : r.map (fun _ => .passed) = v) :
      Attempts c n p owner [⟨s, .call (.evict p c.gracePeriod), a⟩,
        ⟨s', .record (.evictionFailed p (Eviction.told message)), r⟩] v
  | broken {f} (ha : Eviction.outcome? (.error f) = none) (s) :
      Attempts c n p owner [⟨s, .call (.evict p c.gracePeriod), .error f⟩] (.error f)
  | unreported (s s' f) :
      Attempts c n p owner [⟨s, .call (.evict p c.gracePeriod), .ok ()⟩,
        ⟨s', .record (.podEvicted p n.name), .error f⟩] (.error f)
  | evicted {l u} (hl : CoolsDown c owner l u) (s s') {v} (hv : u.map (fun _ => .evicted) = v) :
      Attempts c n p owner (⟨s, .call (.evict p c.gracePeriod), .ok ()⟩ ::
        ⟨s', .record (.podEvicted p n.name), .ok ()⟩ :: l) v

/-- The exchanges of the visit of a candidate, and how it ends. -/
inductive Visits (c : Config) (profiles : ProfileStore) (n : Node) (p : Pod) :
    List (Exchange σ) → Except Fault Verdict → Prop where
  | cancelled (s) : Visits c profiles n p [⟨s, .cancelled, true⟩] (.ok .cancelled)
  | ineligible (he : isEligible c profiles p = false) (s) :
      Visits c profiles n p [⟨s, .cancelled, false⟩] (.ok .passed)
  | timeless (he : isEligible c profiles p = true) (s s' f) :
      Visits c profiles n p [⟨s, .cancelled, false⟩, ⟨s', .clock, .error f⟩] (.error f)
  | unjudged {now l f} (he : isEligible c profiles p = true)
      (hj : Judges c.cooldownMark p now l (.error f)) (s s') :
      Visits c profiles n p (⟨s, .cancelled, false⟩ :: ⟨s', .clock, .ok now⟩ :: l) (.error f)
  | rejected {now l d} (he : isEligible c profiles p = true)
      (hj : Judges c.cooldownMark p now l (.ok d)) (hd : d.admitted = false) (s s') :
      Visits c profiles n p (⟨s, .cancelled, false⟩ :: ⟨s', .clock, .ok now⟩ :: l) (.ok .passed)
  | admitted {now l l' d v} (he : isEligible c profiles p = true)
      (hj : Judges c.cooldownMark p now l (.ok d)) (hd : d.admitted = true)
      (ha : Attempts c n p d.owner l' v) (s s') :
      Visits c profiles n p (⟨s, .cancelled, false⟩ :: ⟨s', .clock, .ok now⟩ :: (l ++ l')) v

variable {c : Config} {profiles : ProfileStore} {n : Node} {p : Pod} {owner : Option Owner}
  {l : List (Exchange σ)}

/-- An attempt asks for the eviction first; only if that is accepted may there be another change. -/
theorem Attempts.asks {v : Except Fault Verdict} (h : Attempts c n p owner l v) :
    (∃ s a l', l = ⟨s, .call (.evict p c.gracePeriod), a⟩ :: l' ∧ ∀ e ∈ l', e.query.isRead = true) ∨
      ∃ s s' l' u, l = ⟨s, .call (.evict p c.gracePeriod), .ok ()⟩ ::
        ⟨s', .record (.podEvicted p n.name), .ok ()⟩ :: l' ∧ CoolsDown c owner l' u := by
  cases h with
  | rateLimited ha s s' r hv => exact .inl ⟨s, _, _, rfl, by simp [Query.isRead]⟩
  | failed ha s s' r hv => exact .inl ⟨s, _, _, rfl, by simp [Query.isRead]⟩
  | broken ha s => exact .inl ⟨s, _, _, rfl, by simp⟩
  | unreported s s' f => exact .inl ⟨s, _, _, rfl, by simp [Query.isRead]⟩
  | evicted hl s s' hv => exact .inr ⟨s, s', _, _, rfl, hl⟩

theorem coolsDown_of_course {u : Except Fault Unit} (h : (coolDown c owner).Course l u) :
    CoolsDown c owner l u := by
  simp only [coolDown] at h
  cases owner with
  | none =>
      obtain ⟨rfl, rfl⟩ := Plan.Course.pure_iff.mp h
      exact .unowned
  | some o =>
      rcases h.bind_cases with ⟨f, hf, rfl⟩ | ⟨t, l₁, l₂, rfl, h₁, h₂⟩
      · obtain ⟨s, rfl⟩ := Plan.Course.clock_iff.mp hf
        exact .timeless s f
      obtain ⟨s, rfl⟩ := Plan.Course.clock_iff.mp h₁
      rcases h₂.bind_cases with ⟨f, hf, rfl⟩ | ⟨v, l₃, l₄, rfl, h₃, h₄⟩
      · exact .recorded (Cooldown.records_of_course hf) s rfl
      · obtain ⟨rfl, rfl⟩ := Plan.Course.pure_iff.mp h₄
        rw [List.append_nil]
        exact .recorded (Cooldown.records_of_course h₃) s rfl

theorem attempts_of_course {v : Except Fault Verdict} (h : (attempt c n p owner).Course l v) :
    Attempts c n p owner l v := by
  simp only [attempt] at h
  rcases h.bind_cases with ⟨f, hf, rfl⟩ | ⟨outcome, l₁, l₂, rfl, h₁, h₂⟩
  · obtain ⟨s, r, rfl, ⟨_, _, ⟨⟩⟩ | ⟨f, rfl, ha, ⟨⟩⟩⟩ := Eviction.request_cases hf
    exact .broken ha s
  obtain ⟨s, r, rfl, ⟨_, ha, ⟨⟩⟩ | ⟨f, rfl, ha, ⟨⟩⟩⟩ := Eviction.request_cases h₁
  cases outcome with
  | rateLimited message =>
      obtain ⟨s', r', rfl, rfl⟩ := Plan.Course.record_pure_cases h₂
      exact .rateLimited ha s s' r' rfl
  | failed message =>
      obtain ⟨s', r', rfl, rfl⟩ := Plan.Course.record_pure_cases h₂
      exact .failed ha s s' r' rfl
  | evicted =>
      have accepted : r = .ok () := by
        simp only [Eviction.outcome?] at ha
        split at ha <;> simp_all
      subst accepted
      rcases h₂.bind_cases with ⟨f, hf, rfl⟩ | ⟨⟨⟩, l₃, l₄, rfl, h₃, h₄⟩
      · obtain ⟨s', rfl⟩ := Plan.Course.record_iff.mp hf
        exact .unreported s s' f
      obtain ⟨s', rfl⟩ := Plan.Course.record_iff.mp h₃
      rcases h₄.bind_cases with ⟨f, hf, rfl⟩ | ⟨⟨⟩, l₅, l₆, rfl, h₅, h₆⟩
      · exact .evicted (coolsDown_of_course hf) s s' rfl
      · obtain ⟨rfl, rfl⟩ := Plan.Course.pure_iff.mp h₆
        rw [List.append_nil]
        exact .evicted (coolsDown_of_course h₅) s s' rfl

theorem visits_of_course {v : Except Fault Verdict} (h : (visit c profiles n p).Course l v) :
    Visits c profiles n p l v := by
  simp only [visit] at h
  obtain ⟨s, cancelled, l', rfl, h₁⟩ := Plan.Course.cancelled_cases h
  clear h
  cases cancelled with
  | true =>
      obtain ⟨rfl, rfl⟩ := Plan.Course.pure_iff.mp h₁
      exact .cancelled s
  | false =>
      cases he : isEligible c profiles p with
      | false =>
        rw [he] at h₁
        obtain ⟨rfl, rfl⟩ := Plan.Course.pure_iff.mp h₁
        exact .ineligible he s
      | true =>
        rw [he] at h₁
        rcases h₁.bind_cases with ⟨f, hf, rfl⟩ | ⟨now, l₁, l₂, rfl, h₂, h₃⟩
        · obtain ⟨s', rfl⟩ := Plan.Course.clock_iff.mp hf
          exact .timeless he s s' f
        obtain ⟨s', rfl⟩ := Plan.Course.clock_iff.mp h₂
        rcases h₃.bind_cases with ⟨f, hf, rfl⟩ | ⟨d, l₃, l₄, rfl, h₄, h₅⟩
        · exact .unjudged he (Admission.judges_of_course hf) s s'
        have hj := Admission.judges_of_course h₄
        cases hd : d.admitted with
        | false =>
          rw [hd] at h₅
          obtain ⟨rfl, rfl⟩ := Plan.Course.pure_iff.mp h₅
          rw [List.append_nil]
          exact .rejected he hj hd s s'
        | true =>
          rw [hd] at h₅
          exact .admitted he hj hd (attempts_of_course h₅) s s'

/-- A visit only reads, or it attempts to evict its pod right after budgets were listed that do not forbid
that. -/
theorem Visits.reads_or_attempts {v : Except Fault Verdict} (h : Visits c profiles n p l v) :
    ((∀ e ∈ l, e.query.isRead = true) ∧ ∀ w, v = .ok w → w = .passed ∨ w = .cancelled) ∨
      ∃ k s bs owner l', l = k ++ ⟨s, .call (.listBudgets p.ns), .ok bs⟩ :: l' ∧
        (∀ e ∈ k, e.query.isRead = true) ∧ Admission.violated? p bs = .ok none ∧
        Attempts c n p owner l' v := by
  have reads {now : Instant} {k : List (Exchange σ)} {d} (hj : Judges c.cooldownMark p now k d) :
      ∀ e ∈ k, e.query.isRead = true :=
    fun e he => Query.isRead_of_isInspection (hj.inspects e he)
  cases h with
  | cancelled s => exact .inl (by simp [Query.isRead])
  | ineligible he s => exact .inl (by simp [Query.isRead])
  | timeless he s s' f => exact .inl (by simp [Query.isRead])
  | unjudged he hj s s' => exact .inl (by simpa [Query.isRead] using reads hj)
  | rejected he hj hd s s' => exact .inl (by simpa [Query.isRead] using reads hj)
  | @admitted now k l' d v he hj hd ha s s' =>
      have judged := reads hj
      obtain ⟨k, s₀, bs, rfl, -, -, free⟩ := hj.of_admitted hd
      refine .inr ⟨⟨s, .cancelled, false⟩ :: ⟨s', .clock, .ok now⟩ :: k, s₀, bs, d.owner, l', by simp, ?_,
        free, ha⟩
      simpa [Query.isRead, or_imp, forall_and] using judged

end Cycle

end NodeRelief
