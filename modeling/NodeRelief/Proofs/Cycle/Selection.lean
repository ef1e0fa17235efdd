import NodeRelief.Proofs.Cycle.Annotations
import NodeRelief.Proofs.Cycle.Progress
import NodeRelief.Proofs.Cycle.Spacing

/-! # Which pod a cycle evicts

A cycle that is to evict a single pod takes its candidates in turn until the first that the gate admits and
whose eviction is not refused. Nothing changes on the way there, so that candidate is the first of all by
the state that the cycle began in. -/

namespace NodeRelief

/-! ## The gate -/

namespace Admission

/-- The budget that is in the way of an eviction is one that selects the pod and is used up. -/
theorem of_violated?_eq_some {p : Pod} {bs : List Budget} {reason : String}
    (h : violated? p bs = .ok (some reason)) :
    ∃ b ∈ bs, selects b.selector p.labels = .ok true ∧ b.allowed.agrees (.int 0) = true := by
  induction bs with
  | nil => cases h
  | cons b bs ih =>
      rw [violated?] at h
      cases hf : forbids b p.labels with
      | error f =>
          rw [hf] at h
          cases h
      | ok forbidden =>
          rw [hf] at h
          cases forbidden with
          | false =>
              obtain ⟨b', hb', found⟩ := ih h
              exact ⟨b', List.mem_cons_of_mem _ hb', found⟩
          | true =>
              refine ⟨b, List.mem_cons_self .., ?_⟩
              simp only [forbids] at hf
              split at hf
              · next selected hs =>
                simp only [Except.ok.injEq, Bool.and_eq_true] at hf
                exact ⟨hf.1 ▸ hs, hf.2⟩
              · cases hf
              · cases hf

end Admission

namespace Cluster

variable {c : Config} {p : Pod} {now : Instant}

/-- The gate admits a pod if and only if no cooldown and no budget is in its way. -/
theorem admitted_iff {l : List (Exchange (Scene Cluster))} {s s' : Scene Cluster} {d : Decision}
    (h : Admission.Judges c.cooldownMark p now l (.ok d)) (sane : ∀ e ∈ l, e.Sane c)
    (hl : world.Leads s l s') :
    d.admitted = true ↔ s.cluster.Cooled c.cooldownMark p now ∧ s.cluster.Unbudgeted p := by
  refine ⟨fun admitted => (of_admitted hosts h admitted hl).2, fun ⟨cooled, bs', listed, allowed⟩ => ?_⟩
  have reads : ∀ e ∈ l, e.query.isRead = true := fun e he =>
    Query.isRead_of_isInspection (h.inspects e he)
  generalize hd : Except.ok d = o at h
  cases h with
  | unresolved hr hf => cases hd
  | unreadable ho hc => cases hd
  | @cooling k owner o t ho hc s₀ r message d' hr =>
      obtain ⟨m, hk, -⟩ := World.Leads.append_iff.mp hl
      cases owner with
      | none => cases hc
      | some o' =>
          obtain ⟨u, hu, ending⟩ := Fault.map_eq_ok_iff.mp hc
          rw [Cooldown.active_eq_none_iff.mpr (cooled o' ((resolve_of_knows hosts ho hk).mp rfl))] at hu
          cases hu
          cases ending
  | free ho hc hv s₀ =>
      cases hd
      rfl
  | @hindered k owner bs e message ho hc hv s₀ s₁ r d' hr =>
      have answered : s.cluster.listBudgets p.ns = bs :=
        hosts.answer_of_mem_reads reads hl (List.mem_append_right k (List.mem_cons_self ..))
      rw [← answered, listed, Except.bind] at hv
      have sound : ∀ b ∈ bs', b.Sound := by
        have accepted := sane _ (List.mem_append_right k (List.mem_cons_self ..))
        rwa [← answered, listed] at accepted
      obtain ⟨v, hv'⟩ := Admission.violated?_isOk sound p
      rw [hv'] at hv
      cases v with
      | none => cases hv
      | some reason =>
          obtain ⟨b, hb, selected, spent⟩ := Admission.of_violated?_eq_some hv'
          rw [allowed b hb selected] at spent
          cases spent
  | unclear ho hc hf hv s₀ => cases hd

end Cluster

/-! ## Steady scenes -/

/-- The clock stands still at a time, and nothing cancels the cycle. -/
structure Scene.Steady {κ : Type} (now : Instant) (s : Scene κ) : Prop where
  clock : ∀ us ∈ s.clock.current :: s.clock.later, us = now.micros
  uncancelled : s.callsLeft = none

namespace Scene.Steady

variable {κ : Type} {now : Instant} {backend : Backend κ} {s s' : Scene κ}
  {l : List (Exchange (Scene κ))}

theorem clock_eq (backend : Backend κ) (h : s.Steady now) : (reply backend .clock s).1 = .ok now := by
  have current : s.clock.current = now.micros := h.clock _ (by simp)
  refine Fault.orOutOfRange_eq_ok_iff.mpr ?_
  rw [current]
  exact Instant.ofMicros?_eq_some_iff.mpr rfl

theorem cancelled_eq (backend : Backend κ) (h : s.Steady now) : (reply backend .cancelled s).1 = false := by
  simp [reply, h.uncancelled]

theorem reply (h : s.Steady now) (q : Query) : (Scene.reply backend q s).2.Steady now := by
  cases q with
  | call call => exact ⟨h.clock, by simp [Scene.reply, h.uncancelled]⟩
  | record e => exact ⟨h.clock, h.uncancelled⟩
  | clock =>
      refine ⟨fun us hus => h.clock us ?_, h.uncancelled⟩
      simp only [Scene.reply, Clock.read, Clock.advance] at hus
      split at hus
      · exact hus
      · next us' rest later =>
        rw [later]
        exact List.mem_cons_of_mem _ hus
  | cancelled => exact h

theorem of_reply {q : Query} {r : q.Reply} (h : s.Steady now)
    (hr : (world backend).reply q s = (r, s')) : s'.Steady now := by
  have after : ((world backend).reply q s).2.Steady now := h.reply q
  rwa [hr] at after

theorem leads (h : s.Steady now) (hl : (world backend).Leads s l s') : s'.Steady now := by
  induction l generalizing s with
  | nil => exact hl ▸ h
  | cons e l ih => exact ih (h.reply e.query) hl.2

theorem before (h : s.Steady now) (hl : (world backend).Leads s l s') :
    ∀ e ∈ l, e.before.Steady now := by
  induction l generalizing s with
  | nil => simp
  | cons e l ih =>
      obtain ⟨he, hl⟩ := hl
      intro x hx
      rcases List.mem_cons.mp hx with rfl | hx
      · rw [he]
        exact h
      · exact ih (h.reply e.query) hl x hx

/-- Whenever the clock is read, it shows the time. -/
theorem clock_reply (h : s.Steady now) (hl : (world backend).Leads s l s') {x : Scene κ}
    {r : Except Fault Instant} (he : ⟨x, .clock, r⟩ ∈ l) : r = .ok now :=
  (hl.reply_eq he).trans ((h.before hl _ he).clock_eq backend)

/-- Whenever the cancel token is looked at, it is not set. -/
theorem cancelled_reply (h : s.Steady now) (hl : (world backend).Leads s l s') {x : Scene κ}
    {r : Bool} (he : ⟨x, .cancelled, r⟩ ∈ l) : r = false :=
  (hl.reply_eq he).trans ((h.before hl _ he).cancelled_eq backend)

end Scene.Steady

/-! ## One visit -/

/-- What an eviction made of a cluster: the pod is gone, and the owner that it had is annotated with the
next deadline, if it takes that. -/
inductive Cluster.Evicted (c : Config) (now : Instant) (cl : Cluster) (p : Pod) : Cluster → Prop where
  | unowned (h : ∀ o, cl.resolve p ≠ .ok (some o)) : Evicted c now cl p (cl.evict p).2
  | owned {o previous t} (h : cl.resolve p = .ok (some o))
      (hd : Cooldown.deadline c.cooldownMark o = .ok previous)
      (hn : Cooldown.next? (.utc now) c.recheckInterval previous = some t) :
      Evicted c now cl p
        ((cl.evict p).2.patchOwner o (Cooldown.entry c.cooldownMark t)).2

/-- The eviction of a pod is accepted, or put off by a rate limit. -/
def Cluster.grants (cl : Cluster) (p : Pod) : Bool :=
  (cl.evict p).1.isOk || isRateLimited (cl.evict p).1

namespace Cycle

/-- A candidate that the cycle stops at if it comes to it. -/
structure Chosen (c : Config) (profiles : ProfileStore) (now : Instant) (cl : Cluster) (p : Pod) :
    Prop where
  eligible : isEligible c profiles p = true
  cooled : cl.Cooled c.cooldownMark p now
  unbudgeted : cl.Unbudgeted p
  granted : cl.grants p = true

/-- A sound and steady scene with a cluster that nothing was changed in. -/
structure Standing (c : Config) (now : Instant) (cl : Cluster) (s : Scene Cluster) : Prop where
  cluster : s.cluster = cl
  sound : s.Sound c
  steady : s.Steady now

/-- What the cycle may rely on: the text of no owner escapes the calendar, and there is a second after
the one of the time. -/
structure Lasting (c : Config) (now : Instant) (cl : Cluster) : Prop where
  legible : ∀ o ∈ cl.owners.items, ¬ o.Escapes c
  next : now.floorSecond.nextSecond?.isSome = true

section Run

variable {c : Config} {profiles : ProfileStore} {now : Instant} {cl : Cluster} {n : Node} {p : Pod}
  {l k : List (Exchange (Scene Cluster))} {s s' : Scene Cluster}

/-- What was only read leaves the scene standing. -/
theorem Standing.reads (h : Standing c now cl s) (ordered : Orderly c k)
    (reads : ∀ e ∈ k, e.query.isRead = true) (hl : Cluster.world.Leads s k s') :
    Standing c now cl s' :=
  ⟨(Cluster.hosts.cluster_of_reads reads hl).trans h.cluster, (h.sound.answered ordered hl).2,
    h.steady.leads hl⟩

/-- As long as there are only reads, every call is answered by the same cluster. -/
theorem Standing.answers (h : Standing c now cl s) (reads : ∀ e ∈ k, e.query.isRead = true)
    (hl : Cluster.world.Leads s k s') (call : Call) {x : Scene Cluster}
    {r : Except Fault call.Value} (he : ⟨x, .call call, r⟩ ∈ k) : (Cluster.answer call cl).1 = r := by
  have answered := Cluster.hosts.answer_of_mem_reads reads hl he
  rwa [h.cluster] at answered

/-- The outcome of the visit of a candidate in a scene that stands. -/
inductive Meets (c : Config) (profiles : ProfileStore) (now : Instant) (cl : Cluster) (p : Pod) :
    Except Fault Verdict → Scene Cluster → Prop where
  | passed {s₁} (h : ¬ Chosen c profiles now cl p) (standing : Standing c now cl s₁) :
      Meets c profiles now cl p (.ok .passed) s₁
  | rateLimited {s₁} (h : Chosen c profiles now cl p) (limited : isRateLimited (cl.evict p).1 = true)
      (same : s₁.cluster = cl) : Meets c profiles now cl p (.ok .rateLimited) s₁
  | evicted {s₁} (h : Chosen c profiles now cl p) (accepted : (cl.evict p).1 = .ok ())
      (evicted : cl.Evicted c now p s₁.cluster) : Meets c profiles now cl p (.ok .evicted) s₁

theorem evict_of_error {f : Fault} (h : (cl.evict p).1 = .error f) :
    (cl.evict p).2 = cl := by
  simp only [Cluster.evict] at h ⊢
  split at h
  · rfl
  · cases h

/-- A deadline that is over is followed by another as long as the calendar goes on. -/
theorem next?_ne_none {previous : Option Instant} {interval : Duration}
    (expired : ∀ t ∈ previous, t ≤ now) (next : now.floorSecond.nextSecond?.isSome = true)
    (ahead : (Cooldown.ahead? now interval).isSome = true) :
    Cooldown.next? (.utc now) interval previous ≠ none := by
  intro none
  obtain ⟨d, rfl, last, -⟩ := (Cooldown.next?_eq_none_iff ahead).mp none
  have early : d.micros ≤ now.micros := expired d rfl
  obtain ⟨u, hu⟩ := Option.isSome_iff_exists.mp next
  have := Instant.ofMicros?_eq_some_iff.mp hu
  have := Instant.ofMicros?_eq_none_iff.mp last
  have := u.le_last
  have := d.floorSecond.ge_first
  simp only [Instant.floorSecond, secondMicros] at *
  omega

theorem Standing.ahead (h : Standing c now cl s) :
    (Cooldown.ahead? now c.recheckInterval).isSome = true := by
  have current := h.steady.clock s.clock.current (by simp)
  obtain ⟨t, ht, ahead⟩ := h.sound.equipped.clock s.clock.current (by simp)
  obtain rfl : t = now :=
    Instant.eq_of_micros_eq ((Instant.ofMicros?_eq_some_iff.mp ht).trans current)
  exact ahead

/-- A cooldown that is recorded asks for one patch of the owner. -/
theorem patches_of_records {o : Owner} {t : Instant} {v : Option Instant × Owner}
    (h : Cooldown.Records c.cooldownMark c.recheckInterval o t k (.ok v)) :
    ∃ previous d s a k', Cooldown.deadline c.cooldownMark o = .ok previous ∧
      Cooldown.next? (.utc t) c.recheckInterval previous = some d ∧
      k = ⟨s, .call (.annotateOwner o (Cooldown.entry c.cooldownMark d)), a⟩ :: k' ∧
      ∀ e ∈ k', e.query.isRead = true := by
  rcases h.asks with rfl | patched
  · generalize hv : Except.ok v = r at h
    cases h <;> cases hv
  · exact patched

/-- What follows an eviction writes the next deadline to the owner of the pod. -/
theorem evicted_of_coolsDown {owner : Option Owner} (h : CoolsDown c owner k (.ok ()))
    (hl : Cluster.world.Leads s k s') (steady : s.Steady now) (hs : s.cluster = (cl.evict p).2)
    (howner : ∀ o, owner = some o ↔ cl.resolve p = .ok (some o)) :
    cl.Evicted c now p s'.cluster := by
  generalize hu : Except.ok () = u at h
  cases h with
  | unowned =>
      obtain rfl : s = s' := hl
      rw [hs]
      exact .unowned fun o resolved => by cases (howner o).mpr resolved
  | timeless s₀ f => cases hu
  | @recorded o t k v hk s₀ u hv =>
      obtain rfl : t = now := Except.ok.inj (steady.clock_reply hl (List.mem_cons_self ..))
      rw [← hu, Fault.map_eq_ok_iff] at hv
      obtain ⟨v, rfl, -⟩ := hv
      obtain ⟨previous, d, s₁, a, k', hd, hn, rfl, reads⟩ := patches_of_records hk
      obtain ⟨rfl, s₂, hr, hl⟩ := World.Leads.cons_iff.mp hl
      obtain ⟨rfl, s₃, hr', hl⟩ := World.Leads.cons_iff.mp hl
      have patched : s₃.cluster = (s₁.cluster.patchOwner o (Cooldown.entry c.cooldownMark d)).2 :=
        (congrArg Prod.snd (Cluster.hosts.answer_of_reply hr')).symm
      rw [Cluster.hosts.cluster_of_reads reads hl, patched, Cluster.hosts.of_reply_isRead rfl hr, hs]
      exact .owned ((howner o).mp rfl) hd hn

/-- A refused eviction changes nothing. -/
theorem Standing.refused (standing : Standing c now cl s) {x : Scene Cluster} {grace : Document}
    {f : Fault}
    (hl : Cluster.world.Leads s (⟨x, .call (.evict p grace), .error f⟩ :: k) s')
    (reads : ∀ e ∈ k, e.query.isRead = true) : (cl.evict p).1 = .error f ∧ s'.cluster = cl := by
  obtain ⟨rfl, s₂, hr, hl⟩ := World.Leads.cons_iff.mp hl
  have answered := Cluster.hosts.answer_of_reply hr
  rw [standing.cluster] at answered
  have error : (cl.evict p).1 = .error f := congrArg Prod.fst answered
  refine ⟨error, ?_⟩
  rw [Cluster.hosts.cluster_of_reads reads hl, ← evict_of_error error]
  exact (congrArg Prod.snd answered).symm

/-- An accepted eviction is answered by the cluster without the pod; that it is recorded changes
nothing. -/
theorem Standing.accepted (standing : Standing c now cl s) {x y : Scene Cluster} {grace : Document}
    {e : Event} {r : Except Fault Unit}
    (hl : Cluster.world.Leads s
      (⟨x, .call (.evict p grace), .ok ()⟩ :: ⟨y, .record e, r⟩ :: k) s') :
    (cl.evict p).1 = .ok () ∧ ∃ z : Scene Cluster,
      z.cluster = (cl.evict p).2 ∧ z.Steady now ∧ Cluster.world.Leads z k s' := by
  obtain ⟨rfl, s₁, hr, hl⟩ := World.Leads.cons_iff.mp hl
  have answered := Cluster.hosts.answer_of_reply hr
  rw [standing.cluster] at answered
  obtain ⟨rfl, z, hr', hl⟩ := World.Leads.cons_iff.mp hl
  have same : z.cluster = y.cluster := Cluster.hosts.of_reply_isRead rfl hr'
  refine ⟨congrArg Prod.fst answered, z, ?_, (standing.steady.of_reply hr).of_reply hr', hl⟩
  exact same.trans (congrArg Prod.snd answered).symm

/-- What follows an accepted eviction finds a deadline that is over, so that there is a next one. -/
theorem not_error_of_attempts {owner : Option Owner} {f : Fault}
    (h : Attempts c n p owner k (.error f)) (hl : Cluster.world.Leads s k s') (ordered : Orderly c k)
    (standing : Standing c now cl s) (lasting : Lasting c now cl)
    (readable : ∀ o, owner = some o →
      ∃ d, Cooldown.deadline c.cooldownMark o = .ok d ∧ ∀ t ∈ d, t ≤ now) : False := by
  obtain ⟨sane, -⟩ := standing.sound.answered ordered hl
  obtain ⟨o, previous, s₁, s₂, s₃, t, ho, rfl, hd, hn⟩ :=
    h.of_error sane fun o ho => (readable o ho).imp fun _ hd => hd.1
  obtain rfl : t = now := Except.ok.inj (standing.steady.clock_reply hl (x := s₃) (by simp))
  obtain ⟨d, hd', expired⟩ := readable o ho
  obtain rfl := Except.ok.inj (hd.symm.trans hd')
  exact next?_ne_none expired lasting.next standing.ahead hn

/-- An attempt to evict an admitted pod ends as the cluster answers it. -/
theorem meets_of_attempts {owner : Option Owner} {v : Except Fault Verdict}
    (h : Attempts c n p owner k v) (hl : Cluster.world.Leads s k s') (ordered : Orderly c k)
    (standing : Standing c now cl s) (lasting : Lasting c now cl)
    (eligible : isEligible c profiles p = true) (cooled : cl.Cooled c.cooldownMark p now)
    (unbudgeted : cl.Unbudgeted p) (howner : ∀ o, owner = some o ↔ cl.resolve p = .ok (some o)) :
    Meets c profiles now cl p v s' := by
  have chosen (granted : cl.grants p = true) : Chosen c profiles now cl p :=
    ⟨eligible, cooled, unbudgeted, granted⟩
  have readable (o : Owner) (ho : owner = some o) :
      ∃ d, Cooldown.deadline c.cooldownMark o = .ok d ∧ ∀ t ∈ d, t ≤ now :=
    cooled o ((howner o).mp ho)
  cases v with
  | error f => cases not_error_of_attempts h hl ordered standing lasting readable
  | ok v =>
      generalize hv : Except.ok v = r at h
      cases h with
      | @rateLimited a message ha s₁ s₂ r v' hr =>
          subst hv
          obtain ⟨_, -, rfl⟩ := Fault.map_eq_ok_iff.mp hr
          obtain rfl := Eviction.eq_of_outcome?_rateLimited ha
          obtain ⟨answered, same⟩ := standing.refused hl (by simp [Query.isRead])
          refine .rateLimited (chosen ?_) ?_ same
          · simp [Cluster.grants, answered, isRateLimited]
          · rw [answered]
            rfl
      | @failed a message ha s₁ s₂ r v' hr =>
          subst hv
          obtain ⟨_, -, rfl⟩ := Fault.map_eq_ok_iff.mp hr
          obtain ⟨rejected, unlimited⟩ := Eviction.of_outcome?_failed (p := p) ha
          cases a with
          | ok u => cases rejected
          | error f =>
              obtain ⟨answered, same⟩ := standing.refused hl (by simp [Query.isRead])
              refine .passed (fun chosen => ?_)
                ⟨same, (standing.sound.answered ordered hl).2, standing.steady.leads hl⟩
              have granted := chosen.granted
              simp only [Cluster.grants, answered, unlimited] at granted
              cases granted
      | broken ha s₁ => cases hv
      | unreported s₁ s₂ f => cases hv
      | @evicted k u hk s₁ s₂ v' hu =>
          subst hv
          obtain ⟨_, rfl, rfl⟩ := Fault.map_eq_ok_iff.mp hu
          obtain ⟨accepted, s₄, after, steady, hl⟩ := standing.accepted hl
          have granted : cl.grants p = true := by
            simp [Cluster.grants, accepted, Except.isOk, Except.toBool]
          exact .evicted (chosen granted) accepted (evicted_of_coolsDown hk hl steady after howner)

/-- The visit of a sound candidate in a scene that stands stops the cycle if the candidate is a chosen
one, and leaves the scene standing if not. -/
theorem meets_of_visits {v : Except Fault Verdict} (h : Visits c profiles n p k v)
    (hl : Cluster.world.Leads s k s') (hc : c.Sound) (hp : p.Sound c)
    (standing : Standing c now cl s) (lasting : Lasting c now cl) :
    Meets c profiles now cl p v s' := by
  have ordered := h.orderly hp
  obtain ⟨sane, -⟩ := standing.sound.answered ordered hl
  have begun {s₀ s₁ : Scene Cluster} {t : Instant} {k : List (Exchange (Scene Cluster))}
      (hl : Cluster.world.Leads s (⟨s₀, .cancelled, false⟩ :: ⟨s₁, .clock, .ok t⟩ :: k) s') :
      t = now ∧ ∃ s₂, Standing c now cl s₂ ∧ Cluster.world.Leads s₂ k s' := by
    refine ⟨Except.ok.inj (standing.steady.clock_reply hl (x := s₁) (by simp)), ?_⟩
    obtain ⟨s₂, hl, hk⟩ := (World.Leads.append_iff (l := [_, _])).mp hl
    refine ⟨s₂, standing.reads ?_ (by simp [Query.isRead]) hl, hk⟩
    exact ⟨trivial, fun _ => ⟨trivial, fun _ => trivial⟩⟩
  have reads {d : Except Fault Decision} {k : List (Exchange (Scene Cluster))}
      (hj : Admission.Judges c.cooldownMark p now k d) (e : Exchange (Scene Cluster)) (he : e ∈ k) :
      e.query.isRead = true :=
    Query.isRead_of_isInspection (hj.inspects e he)
  cases h with
  | cancelled s₀ => cases standing.steady.cancelled_reply hl (List.mem_cons_self ..)
  | ineligible he s₀ =>
      refine .passed (fun chosen => ?_) (standing.reads ordered (by simp [Query.isRead]) hl)
      rw [chosen.eligible] at he
      cases he
  | timeless he s₀ s₁ f =>
      cases standing.steady.clock_reply hl (List.mem_of_getLast? rfl)
  | unjudged he hj s₀ s₁ =>
      obtain ⟨rfl, s₂, standing, hl⟩ := begun hl
      obtain ⟨o, hk, hd⟩ := hj.of_error fun e he => sane e (by simp [he])
      have resolved := (Cluster.resolve_of_knows Cluster.hosts hk hl).mp rfl
      rw [standing.cluster] at resolved
      have stored := (Register.mem_of_find? (Cluster.owner?_resolve resolved)).1
      have sound := (hk.resolves.of_sane fun e he => sane e (by simp [he])).1 o rfl
      exact absurd ((Cooldown.deadline_eq_error_iff hc sound).mp hd).2 (lasting.legible o stored)
  | rejected he hj hd s₀ s₁ =>
      obtain ⟨rfl, s₂, standing, hl⟩ := begun hl
      refine .passed (fun chosen => ?_) (standing.reads (hj.orderly hp) (reads hj) hl)
      have admitted := (Cluster.admitted_iff hj (fun e he => sane e (by simp [he])) hl).mpr
      rw [standing.cluster] at admitted
      rw [admitted ⟨chosen.cooled, chosen.unbudgeted⟩] at hd
      cases hd
  | @admitted t k₁ k₂ d v he hj hd ha s₀ s₁ =>
      obtain ⟨rfl, s₂, standing, hl⟩ := begun hl
      obtain ⟨s₃, hl₁, hl₂⟩ := World.Leads.append_iff.mp hl
      obtain ⟨howner, cooled, unbudgeted⟩ := Cluster.of_admitted Cluster.hosts hj hd hl₁
      rw [standing.cluster] at howner cooled unbudgeted
      have judged := standing.reads (hj.orderly hp) (reads hj) hl₁
      have attempted : Orderly c k₂ :=
        (orderly_append.mp ((ordered.2 (sane _ (by simp))).2 (sane _ (by simp)))).2
          fun e he => sane e (by simp [he])
      exact meets_of_attempts ha hl₂ attempted judged lasting he cooled unbudgeted howner

/-! ## The loops -/

/-- What is not below one is above zero, as far as it is a number at all. -/
theorem not_le_zero {cap : Number} (h : cap.lt (.whole 1) = false) : cap.le (.whole 0) = false := by
  cases cap with
  | whole n =>
      simp at h ⊢
      omega
  | fractional x =>
      cases x with
      | nan => rfl
      | infinite negative =>
          cases negative with
          | true => cases h
          | false => rfl
      | finite negative mantissa exponent =>
          have one : ¬ (Number.fractional (.finite negative mantissa exponent)).value < 1 :=
            of_decide_eq_false h
          have zero : (0 : Rat) < (Number.fractional (.finite negative mantissa exponent)).value := by
            grind
          have below : (Number.whole 0).lt (.fractional (.finite negative mantissa exponent)) = true :=
            decide_eq_true zero
          simp [Number.le, below]

/-- No cap is reached before the first eviction. -/
theorem isSpent_zero (c : Config) : c.isSpent 0 = false := by
  obtain ⟨cap, hcap⟩ := Option.isSome_iff_exists.mp c.cap_isSome
  have positive := (Option.mem_filter_iff.mp hcap).2
  rw [Bool.not_eq_true'] at positive
  rw [ConfigDraft.isSpent, hcap, Option.any_some]
  exact not_le_zero positive

/-- What a walk comes to by the first chosen one of its candidates. -/
def walkOf (cl : Cluster) : Option Pod → Walk
  | none => ⟨[], .finished⟩
  | some p => if isRateLimited (cl.evict p).1 then ⟨[], .rateLimited⟩ else ⟨[p.key], .finished⟩

/-- What a cycle comes to by the first chosen one of its candidates. -/
def resultOf (c : Config) (cl : Cluster) : Option Pod → CycleResult
  | none => recheck c [] false none
  | some p =>
    if isRateLimited (cl.evict p).1 then ⟨c.afterRateLimit, [], true, false, none⟩
    else ⟨c.afterEviction, [p.key], false, false, none⟩

/-- The scene after the first chosen candidate, if there is one. -/
inductive Takes (c : Config) (now : Instant) (cl : Cluster) : Option Pod → Scene Cluster → Prop where
  | nobody {s₁} (standing : Standing c now cl s₁) : Takes c now cl none s₁
  | rateLimited {s₁ p} (limited : isRateLimited (cl.evict p).1 = true) (same : s₁.cluster = cl) :
      Takes c now cl (some p) s₁
  | evicted {s₁ p} (accepted : (cl.evict p).1 = .ok ()) (evicted : cl.Evicted c now p s₁.cluster) :
      Takes c now cl (some p) s₁

section Loops

variable {f : Pod → Bool}

theorem takes_walk {ranked : List Pod} (hc : c.Sound) (single : c.isSingle = true)
    (hp : ∀ p ∈ ranked, p.Sound c) (hf : ∀ p ∈ ranked, f p = true ↔ Chosen c profiles now cl p)
    (lasting : Lasting c now cl) (standing : Standing c now cl s) :
    (walk c profiles n [] ranked).Ensures Cluster.world l s fun o _ s' =>
      o = .ok (walkOf cl (ranked.find? f)) ∧ Takes c now cl (ranked.find? f) s' := by
  refine walk_ensures (I := fun taken rest l s => taken = [] ∧ rest.find? f = ranked.find? f ∧
    (∀ p ∈ rest, p ∈ ranked) ∧ Standing c now cl s) ?_ ?_ ⟨rfl, rfl, fun _ hp => hp, standing⟩
  · rintro taken rest l s ⟨rfl, same, -, standing⟩ stops
    rcases stops with rfl | spent
    · rw [← same]
      exact ⟨rfl, .nobody standing⟩
    · rw [List.length_nil, isSpent_zero] at spent
      cases spent
  · rintro taken p rest l s ⟨rfl, same, sub, standing⟩ -
    apply Plan.Ensures.of_course
    intro k v s' hk hl
    have mem := sub p (by simp)
    have meets := meets_of_visits (visits_of_course hk) hl hc (hp p mem) standing lasting
    have stops (chosen : Chosen c profiles now cl p) : ranked.find? f = some p := by
      rw [← same]
      exact List.find?_cons_of_pos ((hf p mem).mpr chosen)
    cases meets with
    | passed h standing =>
        refine ⟨rfl, ?_, fun q hq => sub q (by simp [hq]), standing⟩
        rw [← same]
        exact (List.find?_cons_of_neg fun chosen => h ((hf p mem).mp chosen)).symm
    | rateLimited h limited cluster =>
        rw [stops h]
        exact ⟨by simp [walkOf, limited], .rateLimited limited cluster⟩
    | evicted h accepted evicted =>
        rw [stops h]
        refine ⟨fun _ => ⟨by simp [walkOf, accepted, isRateLimited], .evicted accepted evicted⟩, ?_⟩
        intro many
        rw [single] at many
        cases many

/-- The rankings of the candidates, node by node. -/
def rankings (c : Config) (profiles : ProfileStore) (pods : List Pod) (nodes : List Node) :
    Except Fault (List (List Pod)) :=
  nodes.mapM fun n => Ranking.rank profiles c.workloadLabel (candidates n pods)

theorem takes_relieve {pods : List Pod} {nodes : List Node} {rs : List (List Pod)} (hc : c.Sound)
    (single : c.isSingle = true) (hp : ∀ p ∈ pods, p.Sound c)
    (hf : ∀ p ∈ pods, f p = true ↔ Chosen c profiles now cl p) (lasting : Lasting c now cl)
    (hrs : rankings c profiles pods nodes = .ok rs) (standing : Standing c now cl s) :
    (relieve c profiles pods [] nodes).Ensures Cluster.world l s fun o _ s' =>
      o = .ok (resultOf c cl (rs.flatten.find? f)) ∧ Takes c now cl (rs.flatten.find? f) s' := by
  refine relieve_ensures (J := fun evicted rest l s => evicted = [] ∧ Standing c now cl s ∧
    ∃ rs', rankings c profiles pods rest = .ok rs' ∧ rs'.flatten.find? f = rs.flatten.find? f)
    ?_ ?_ ?_ ⟨rfl, standing, rs, hrs, rfl⟩
  · rintro evicted l s ⟨rfl, standing, rs', hrs', same⟩
    cases hrs'
    rw [← same]
    exact ⟨rfl, .nobody standing⟩
  · rintro evicted n rest l s f ⟨rfl, -, rs', hrs', -⟩ unranked
    obtain ⟨ranked, -, hranked, -⟩ := List.forall₂_cons_left_iff.mp (Fault.mapM_eq_ok_iff.mp hrs')
    rw [unranked] at hranked
    cases hranked
  · rintro evicted n rest l s ranked ⟨rfl, standing, rs', hrs', same⟩ hranked
    obtain ⟨ranked', rs', hranked', hrest, rfl⟩ :=
      List.forall₂_cons_left_iff.mp (Fault.mapM_eq_ok_iff.mp hrs')
    obtain rfl := Except.ok.inj (hranked.symm.trans hranked')
    rw [List.flatten_cons, List.find?_append] at same
    have mem (p : Pod) (hp : p ∈ ranked) : p ∈ pods :=
      List.mem_of_mem_filter ((perm_of_rank hranked).mem_iff.mp hp)
    refine (takes_walk hc single (fun p h => hp p (mem p h)) (fun p h => hf p (mem p h)) lasting
      standing).mono ?_
    rintro o l' s' ⟨rfl, takes⟩
    generalize ranked.find? f = first at same takes
    cases takes with
    | nobody standing =>
        rw [Option.none_or] at same
        exact ⟨fun _ some => absurd rfl some, fun _ => ⟨rfl, standing, rs', Fault.mapM_eq_ok_iff.mpr hrest, same⟩⟩
    | @rateLimited s₁ p limited cluster =>
        rw [Option.some_or] at same
        rw [← same]
        simp only [walkOf, limited, if_true]
        exact ⟨by simp [resultOf, limited], .rateLimited limited cluster⟩
    | @evicted s₁ p accepted evicted =>
        rw [Option.some_or] at same
        rw [← same]
        have unlimited : isRateLimited (cl.evict p).1 = false := by rw [accepted]; rfl
        simp only [walkOf, unlimited]
        refine ⟨fun _ _ => ⟨by simp [resultOf, unlimited], .evicted accepted evicted⟩, ?_⟩
        rintro (many | none)
        · rw [single] at many
          cases many
        · cases none

end Loops

/-! ## The whole cycle -/

/-- The candidates of a cycle in the order of their turns. -/
def queue (c : Config) (profiles : ProfileStore) (pods : List Pod) (nodes : List Node) :
    Except Fault (List Pod) :=
  (rankings c profiles pods nodes).map fun rs => rs.flatten.filter (isEligible c profiles)

/-- By what the cluster lists: the candidate that a cycle stops at if it is to evict a single pod and only
the admissible candidates can be evicted, and the result of the cycle. -/
inductive Selects (c : Config) (profiles : ProfileStore) (admissible : Pod → Bool) (cl : Cluster) :
    Option Pod → CycleResult → Prop where
  | nodesUnlisted {message} (hn : cl.listNodes = .error (.listing message)) :
      Selects c profiles admissible cl none (recheck c [] false (some message))
  | healthy {nodes} (hn : cl.listNodes = .ok nodes) (hd : degraded c nodes = .ok []) :
      Selects c profiles admissible cl none (recheck c [] false none)
  | podsUnlisted {nodes n ds message} (hn : cl.listNodes = .ok nodes)
      (hd : degraded c nodes = .ok (n :: ds)) (hp : cl.listPods = .error (.listing message)) :
      Selects c profiles admissible cl none (recheck c [] false (some message))
  | selected {nodes ds pods q} (hn : cl.listNodes = .ok nodes) (hd : degraded c nodes = .ok ds)
      (hp : cl.listPods = .ok pods) (hq : queue c profiles pods ds = .ok q) :
      Selects c profiles admissible cl (q.filter admissible).head?
        (resultOf c cl (q.filter admissible).head?)

theorem evicted_resultOf (c : Config) (cl : Cluster) (first : Option Pod) :
    (resultOf c cl first).evicted = (walkOf cl first).evicted := by
  cases first with
  | none => rfl
  | some p =>
      simp only [resultOf, walkOf]
      split <;> rfl

/-- Sound pods have rankings. -/
theorem rankings_isOk {pods : List Pod} (hc : c.Sound) (hprofiles : profiles.Sound)
    (hp : ∀ p ∈ pods, p.Sound c) (nodes : List Node) :
    ∃ rs, rankings c profiles pods nodes = .ok rs := by
  suffices ∃ rs, rankings c profiles pods nodes = .ok rs ∧ ∀ r ∈ rs, True from
    this.imp fun _ h => h.1
  refine Fault.mapM_isOk fun n _ => ?_
  have sound (p : Pod) (hp' : p ∈ candidates n pods) : p.Sound c := hp p (List.mem_of_mem_filter hp')
  obtain ⟨ranked, hr⟩ := Ranking.rank_isOk hc hprofiles sound
  exact ⟨ranked, hr, trivial⟩

/-- In a scene that stands, a cycle that is to evict a single pod ends with the first of its candidates that
is a chosen one. -/
theorem takes_reconcile (admissible : Pod → Bool) (hc : c.Sound) (hprofiles : profiles.Sound)
    (profiled : profiles.isEmpty = false) (single : c.isSingle = true)
    (standing : Standing c now cl s) (lasting : Lasting c now cl)
    (hf : ∀ p ∈ cl.pods.items, isEligible c profiles p = true →
      (admissible p = true ↔ Chosen c profiles now cl p)) :
    (reconcile c profiles).Ensures Cluster.world l s fun o _ s' =>
      ∃ first r, o = .ok r ∧ Selects c profiles admissible cl first r ∧
        r.evicted = (walkOf cl first).evicted ∧ Takes c now cl first s' := by
  apply reconcile_ensures
  intro k o s' hk hl
  have ordered := (hk.conducts hc).1
  obtain ⟨sane, -⟩ := standing.sound.answered ordered hl
  have after := standing.reads ordered hk.reads hl
  have listedNodes {x : Scene Cluster} {r : Except Fault (List Node)}
      (he : ⟨x, .call .listNodes, r⟩ ∈ k) : cl.listNodes = r :=
    standing.answers hk.reads hl .listNodes he
  have listedPods {x : Scene Cluster} {r : Except Fault (List Pod)}
      (he : ⟨x, .call .listPods, r⟩ ∈ k) : cl.listPods = r :=
    standing.answers hk.reads hl .listPods he
  have running {x : Scene Cluster} {r : Bool} (he : ⟨x, .cancelled, r⟩ ∈ k) : r = false :=
    standing.steady.cancelled_reply hl he
  cases hk with
  | unprofiled hp =>
      rw [hp] at profiled
      cases profiled
  | cancelled s₀ => cases running (List.mem_cons_self ..)
  | nodesUnlisted s₀ s₁ message =>
      have hn : cl.listNodes = _ := listedNodes (List.mem_of_getLast? rfl)
      exact ⟨none, _, rfl, .nodesUnlisted hn, rfl, .nobody after⟩
  | nodesBroken hf s₀ s₁ =>
      obtain ⟨message, rfl⟩ := sane _ (List.mem_of_getLast? rfl)
      exact absurd rfl (hf message)
  | @unmarked nodes f hd s₀ s₁ =>
      obtain ⟨ds, hd'⟩ := degraded_isOk hc nodes
      rw [hd'] at hd
      cases hd
  | unannounced hd hk s₀ s₁ => exact absurd (fun e he => sane e (by simp [he])) hk.not_error
  | healthy hd s₀ s₁ =>
      have hn : cl.listNodes = _ := listedNodes (List.mem_of_getLast? rfl)
      exact ⟨none, _, rfl, .healthy hn hd, rfl, .nobody after⟩
  | stopped hd hk s₀ s₁ s₂ => cases running (x := s₂) (r := true) (by simp)
  | @podsUnlisted nodes n ds k hd hk s₀ s₁ s₂ s₃ message =>
      have hn : cl.listNodes = .ok nodes := listedNodes (x := s₁) (by simp)
      have hp : cl.listPods = .error (.listing message) := listedPods (x := s₃) (by simp)
      exact ⟨none, _, rfl, .podsUnlisted hn hd hp, rfl, .nobody after⟩
  | @podsBroken nodes ds k f hd hk hf s₀ s₁ s₂ s₃ =>
      obtain ⟨message, rfl⟩ : (Call.listPods).Accepts c (.error f) :=
        sane ⟨s₃, .call .listPods, .error f⟩ (by simp)
      exact absurd rfl (hf message)
  | @opened nodes ds k pods hd hk s₀ s₁ s₂ s₃ =>
      have hn : cl.listNodes = .ok nodes := listedNodes (x := s₁) (by simp)
      have hp : cl.listPods = .ok pods := listedPods (x := s₃) (by simp)
      obtain rfl := Cluster.of_listPods hp
      have sound : ∀ p ∈ cl.pods.items, p.Sound c := by
        rw [← standing.cluster]
        exact standing.sound.cluster.pods
      obtain ⟨rs, hrs⟩ := rankings_isOk hc hprofiles sound ds
      have stops : ∀ p ∈ cl.pods.items,
          (admissible p && isEligible c profiles p) = true ↔ Chosen c profiles now cl p := by
        intro p hp
        rw [Bool.and_eq_true]
        constructor
        · rintro ⟨admitted, eligible⟩
          exact (hf p hp eligible).mp admitted
        · intro chosen
          exact ⟨(hf p hp chosen.eligible).mpr chosen, chosen.eligible⟩
      have hq : queue c profiles cl.pods.items ds =
          .ok (rs.flatten.filter (isEligible c profiles)) := by
        rw [queue, hrs]
        rfl
      have selects : Selects c profiles admissible cl _ _ := .selected hn hd hp hq
      rw [List.filter_filter, List.head?_filter] at selects
      rw [Leaves]
      refine (takes_relieve hc single sound stops lasting hrs after).mono ?_
      rintro o l s' ⟨rfl, takes⟩
      exact ⟨_, _, rfl, selects, evicted_resultOf .., takes⟩

/-- Whether the gate admits a pod in the state of a scene. -/
def admits (c : Config) (now : Instant) (s : Scene Cluster) (p : Pod) : Bool :=
  match ((Admission.evaluate c.cooldownMark p now).run Cluster.world s).outcome with
  | .ok d => d.admitted
  | .error _ => false

theorem admits_iff (hc : c.Sound) (hp : p.Sound c) (hs : s.Sound c)
    (lasting : Lasting c now s.cluster) :
    admits c now s p = true ↔ s.cluster.Cooled c.cooldownMark p now ∧ s.cluster.Unbudgeted p := by
  have legible (o : Owner) (resolved : s.cluster.resolve p = .ok (some o)) : ¬ o.Escapes c :=
    lasting.legible o (Register.mem_of_find? (Cluster.owner?_resolve resolved)).1
  obtain ⟨d, hd⟩ := (Admission.evaluate_isOk_iff hc hs hp now).mpr legible
  have hl := World.Leads.run Cluster.world (Admission.evaluate c.cooldownMark p now) s
  have hj := Admission.judges_of_course
    (Plan.Course.run Cluster.world (Admission.evaluate c.cooldownMark p now) s)
  rw [hd] at hj
  rw [admits, hd]
  exact Cluster.admitted_iff hj (hs.answered (hj.orderly hp) hl).1 hl

/-- An accepted eviction takes the pod away and nothing else. -/
theorem pods_of_evicted {cl' : Cluster} (h : cl.Evicted c now p cl')
    (accepted : (cl.evict p).1 = .ok ()) : cl'.pods = cl.pods.remove p.key := by
  have gone : (cl.evict p).2.pods = cl.pods.remove p.key := by
    simp only [Cluster.evict] at accepted ⊢
    split at accepted
    · cases accepted
    · rfl
  cases h with
  | unowned h => exact gone
  | owned h hd hn => rw [Cluster.patchOwner_pods, gone]

theorem Takes.mem_pods {first : Option Pod} (h : Takes c now cl first s) (q : Pod) :
    q ∈ s.cluster.pods.items ↔ q ∈ cl.pods.items ∧ q.key ∉ (walkOf cl first).evicted := by
  cases h with
  | nobody standing => simp [walkOf, standing.cluster]
  | rateLimited limited same => simp [walkOf, limited, same]
  | evicted accepted evicted =>
      rw [pods_of_evicted evicted accepted, Register.mem_remove]
      simp [walkOf, accepted, isRateLimited]

/-- In a steady scene, a cycle that is to evict a single pod takes the candidates of the degraded nodes in
the order of their rankings. It ends with the first that the gate admits in the state that the cycle began
in and whose eviction is accepted or rate limited. That pod is evicted, unless it is the rate limit that the
cycle ends with, and no other pod is. The scene is sound, so no node, pod or owner has an empty name: a
recorder refuses an event about an object without a name, and a cycle that meets a refusal fails. -/
theorem first_admissible_evicted (c : Config) (profiles : ProfileStore) (s : Scene Cluster)
    (now : Instant) (hc : c.Sound) (hprofiles : profiles.Sound) (hs : s.Sound c)
    (profiled : profiles.isEmpty = false) (single : c.isSingle = true) (steady : s.Steady now)
    (lasting : Lasting c now s.cluster) :
    ∃ first r, ((reconcile c profiles).run Cluster.world s).outcome = .ok r ∧
      Selects c profiles (fun p => admits c now s p && s.cluster.grants p) s.cluster first r ∧
      r.evicted = accepted ((reconcile c profiles).run Cluster.world s).exchanges ∧
      ∀ q, q ∈ ((reconcile c profiles).run Cluster.world s).state.cluster.pods.items ↔
        q ∈ s.cluster.pods.items ∧ q.key ∉ r.evicted := by
  have chosen (p : Pod) (hp : p ∈ s.cluster.pods.items) (eligible : isEligible c profiles p = true) :
      (admits c now s p && s.cluster.grants p) = true ↔ Chosen c profiles now s.cluster p := by
    rw [Bool.and_eq_true, admits_iff hc (hs.cluster.pods p hp) hs lasting]
    constructor
    · rintro ⟨⟨cooled, unbudgeted⟩, granted⟩
      exact ⟨eligible, cooled, unbudgeted, granted⟩
    · intro chosen
      exact ⟨⟨chosen.cooled, chosen.unbudgeted⟩, chosen.granted⟩
  obtain ⟨first, r, ho, selects, evicted, takes⟩ := takes_reconcile (l := []) _ hc hprofiles profiled
    single ⟨rfl, hs, steady⟩ lasting chosen
  have closes := closes_reconcile c profiles Cluster.world s
  rw [ho] at closes
  refine ⟨first, r, ho, selects, closes.1.evicted, fun q => ?_⟩
  rw [evicted]
  exact takes.mem_pods q

end Run

/-! ## A run -/

namespace Sample

/-- The cluster refuses to evict the first of the pods. -/
def refusing : Cluster :=
  { cluster with
    failures := fun point =>
      if point = .eviction "shop/web-1" then some (.evictionFailed "not now") else none }

/-- The clock stands still at noon. -/
def stillScene : Scene Cluster := ⟨refusing, .memory [], ⟨noon.micros, []⟩, none⟩

theorem stillScene_sound : stillScene.Sound config where
  cluster := by
    refine ⟨nodes_sound, pods_sound, fun b hb => (by cases hb), owners_sound, fun pod f hf => ?_⟩
    simp only [stillScene, refusing] at hf
    split at hf
    · cases hf
      simp [Eviction.outcome?]
    · cases hf
  equipped := by
    refine ⟨trivial, ?_⟩
    simp only [Clock.Ticks]
    decide

theorem stillScene_steady : stillScene.Steady noon :=
  ⟨fun _ hus => List.mem_singleton.mp hus, rfl⟩

theorem stillScene_lasting : Lasting config noon stillScene.cluster := by
  refine ⟨fun o ho => ?_, by decide⟩
  cases List.mem_singleton.mp ho
  rintro ⟨text, none, -⟩
  cases none

end Sample

open Sample in
theorem first_admissible_evicted_sample :
    config.Sound ∧ ProfileStore.Sound profiles ∧ stillScene.Sound config ∧
      stillScene.Steady noon ∧ Lasting config noon stillScene.cluster ∧
      ∃ first r, ((reconcile config profiles).run Cluster.world stillScene).outcome = .ok r ∧
        Selects config profiles
          (fun p => admits config noon stillScene p && stillScene.cluster.grants p)
          stillScene.cluster first r ∧
        r.evicted = ["shop/web-2"] := by
  refine ⟨config_sound, profiles_sound, stillScene_sound, stillScene_steady, stillScene_lasting, ?_⟩
  obtain ⟨first, r, ho, selects, -, -⟩ := first_admissible_evicted config profiles stillScene noon
    config_sound profiles_sound stillScene_sound rfl rfl stillScene_steady stillScene_lasting
  refine ⟨first, r, ho, selects, ?_⟩
  have second : (match ((reconcile config profiles).run Cluster.world stillScene).outcome with
      | .ok r => r.evicted
      | .error _ => []) = ["shop/web-2"] := by decide +kernel
  rw [ho] at second
  exact second

end Cycle

end NodeRelief
