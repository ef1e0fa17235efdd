import NodeRelief.Proofs.Cycle.Opening
import NodeRelief.Proofs.Recorder

/-! # Cycles in good order

A query is sound if it is about sound objects, and a reply is sane if it is of a documented kind. As long
as the replies are sane, a cycle asks nothing but sound queries, and then only an instant outside the
calendar can end it on a fault. -/

namespace NodeRelief

variable {σ : Type} {c : Config}

/-! ## Sound queries and sane replies -/

def Call.Sound (c : Config) : Call → Prop
  | .listNodes => True
  | .listPods => True
  | .listBudgets ns => ns.isText = true
  | .readOwner id => id.ns.isText = true ∧ id.name.isText = true
  | .annotateOwner o entries => o.Sound c ∧ ∃ t, entries = .mapping (Cooldown.entry c.cooldownMark t)
  | .evict p gracePeriod => p.Sound c ∧ gracePeriod = c.gracePeriod

def Query.Sound (c : Config) : Query → Prop
  | .call k => k.Sound c
  | .record e => e.Sound
  | .clock => True
  | .cancelled => True

/-- Sound objects, or a fault of the kind that is documented for the call. -/
def Call.Accepts (c : Config) : (call : Call) → Except Fault call.Value → Prop
  | .listNodes, .ok nodes => ∀ n ∈ nodes, n.Sound
  | .listPods, .ok pods => ∀ p ∈ pods, p.Sound c
  | .listBudgets _, .ok bs => ∀ b ∈ bs, b.Sound
  | .readOwner _, .ok o => o.Sound c
  | .listNodes, .error f => ∃ message, f = .listing message
  | .listPods, .error f => ∃ message, f = .listing message
  | .listBudgets _, .error f => ∃ message, f = .listing message
  | .readOwner _, .error f => ∃ message, f = .ownerLookup message
  | .annotateOwner _ _, r => ∀ f, r = .error f → ∃ message, f = .ownerPatch message
  | .evict _ _, r => Eviction.outcome? r ≠ none

/-- The clock shows times from which twice the recheck interval stays in the calendar. -/
def Query.Accepts (c : Config) : (q : Query) → q.Reply → Prop
  | .call k, r => k.Accepts c r
  | .record _, r => r = .ok ()
  | .clock, r => ∃ now, r = .ok now ∧ (Cooldown.ahead? now c.recheckInterval).isSome = true
  | .cancelled, _ => True

def Exchange.Sane (c : Config) (e : Exchange σ) : Prop := e.query.Accepts c e.reply

namespace Cycle

/-- Every query is sound, if the replies before it are sane. -/
def Orderly (c : Config) : List (Exchange σ) → Prop
  | [] => True
  | e :: l => e.query.Sound c ∧ (e.Sane c → Orderly c l)

@[simp] theorem orderly_nil : Orderly c ([] : List (Exchange σ)) := trivial

@[simp] theorem orderly_cons {e : Exchange σ} {l : List (Exchange σ)} :
    Orderly c (e :: l) ↔ e.query.Sound c ∧ (e.Sane c → Orderly c l) :=
  Iff.rfl

theorem orderly_append {l l' : List (Exchange σ)} :
    Orderly c (l ++ l') ↔ Orderly c l ∧ ((∀ e ∈ l, e.Sane c) → Orderly c l') := by
  induction l with
  | nil => simp
  | cons e l ih =>
      simp only [List.cons_append, orderly_cons, ih, List.forall_mem_cons]
      by_cases h : e.Sane c <;> simp [h, and_assoc]

theorem Orderly.sound {l : List (Exchange σ)} (h : Orderly c l) (sane : ∀ e ∈ l, e.Sane c) :
    ∀ e ∈ l, e.query.Sound c := by
  induction l with
  | nil => simp
  | cons e l ih =>
      have rest := ih (h.2 (sane e (by simp))) fun e he => sane e (by simp [he])
      intro x hx
      rcases List.mem_cons.mp hx with rfl | hx
      · exact h.1
      · exact rest x hx

/-- In a world that answers sound queries sanely as long as `I` holds, and then keeps it, everything that
is asked in good order is answered sanely, and `I` is kept. -/
theorem Orderly.answered {w : World σ} {I : σ → Prop} {l : List (Exchange σ)} {s s' : σ}
    (h : Orderly c l) (hl : w.Leads s l s') (hs : I s)
    (step : ∀ s q, (⟨s, q, (w.reply q s).1⟩ : Exchange σ) ∈ l → I s → q.Sound c →
      q.Accepts c (w.reply q s).1 ∧ I (w.reply q s).2) :
    (∀ e ∈ l, e.Sane c) ∧ I s' := by
  induction l generalizing s with
  | nil => exact ⟨by simp, hl ▸ hs⟩
  | cons e l ih =>
      obtain ⟨s₀, q, r⟩ := e
      obtain ⟨rfl, s₁, hr, hl⟩ := World.Leads.cons_iff.mp hl
      have first : w.reply q s₀ = (r, s₁) := hr
      have answered := step s₀ q (by simp [first]) hs h.1
      rw [first] at answered
      obtain ⟨rest, kept⟩ := ih (h.2 answered.1) hl answered.2 fun s q he => step s q (by simp [he])
      refine ⟨fun e he => ?_, kept⟩
      rcases List.mem_cons.mp he with rfl | he
      · exact answered.1
      · exact rest e he

theorem Orderly.sane {w : World σ} {I : σ → Prop} {l : List (Exchange σ)} {s s' : σ}
    (h : Orderly c l) (hl : w.Leads s l s') (hs : I s)
    (step : ∀ s q, (⟨s, q, (w.reply q s).1⟩ : Exchange σ) ∈ l → I s → q.Sound c →
      q.Accepts c (w.reply q s).1 ∧ I (w.reply q s).2) :
    ∀ e ∈ l, e.Sane c :=
  (h.answered hl hs step).1

end Cycle

/-! ## The owner of a pod -/

namespace Ownership

variable {p : Pod} {l : List (Exchange σ)} {r : Except Fault (Option Owner)}

theorem isText_of_reference? {kind : OwnerKind} {name : Document}
    (hp : ∀ r ∈ p.owners, r.name.isText = true) (h : reference? p = some (kind, name)) :
    name.isText = true := by
  obtain ⟨ref, href, h⟩ := List.exists_of_findSome?_eq_some h
  split at h
  · obtain ⟨_, -, ⟨⟩⟩ := Option.map_eq_some_iff.mp h
    exact hp ref href
  · cases h

theorem isText_of_successor? {kind : OwnerKind} {o : Owner} {name : Document}
    (ho : ∀ r ∈ o.owners, r.name.isText = true) (h : successor? kind o = some name) :
    name.isText = true := by
  simp only [successor?, parent?] at h
  split at h
  · split at h
    · next ref href =>
      split at h
      · cases h
        exact ho ref (List.mem_of_find?_eq_some href)
      · cases h
    · cases h
  · cases h

theorem Resolves.orderly (h : Resolves p l r) (hp : p.Sound c) : Cycle.Orderly c l := by
  cases h with
  | unmanaged h => exact Cycle.orderly_nil
  | unread h s f => exact ⟨⟨hp.ns, isText_of_reference? hp.owners h⟩, fun _ => trivial⟩
  | direct h hs s => exact ⟨⟨hp.ns, isText_of_reference? hp.owners h⟩, fun _ => trivial⟩
  | through h hs s s' r =>
      refine ⟨⟨hp.ns, isText_of_reference? hp.owners h⟩, fun sane => ?_⟩
      exact ⟨⟨hp.ns, isText_of_successor? sane.owners hs⟩, fun _ => trivial⟩

/-- Sane reads tell a sound owner or fail to look it up. -/
theorem Resolves.of_sane (h : Resolves p l r) (sane : ∀ e ∈ l, e.Sane c) :
    (∀ o, r = .ok (some o) → o.Sound c) ∧ ∀ f, r = .error f → ∃ message, f = .ownerLookup message := by
  cases h with
  | unmanaged h => simp
  | unread h s f =>
      have lookup := sane _ (List.mem_singleton_self _)
      refine ⟨by simp, ?_⟩
      rintro _ ⟨⟩
      exact lookup
  | direct h hs s =>
      have read := sane _ (List.mem_singleton_self _)
      refine ⟨?_, by simp⟩
      rintro _ ⟨⟩
      exact read
  | through h hs s s' r =>
      have read := sane _ (List.mem_of_getLast? rfl)
      cases r with
      | ok o =>
          refine ⟨?_, by simp [Except.map]⟩
          rintro _ ⟨⟩
          exact read
      | error f =>
          refine ⟨by simp [Except.map], ?_⟩
          rintro _ ⟨⟩
          exact read

/-- An owner is told by the last of the reads. -/
theorem Resolves.last {o : Owner} (h : Resolves p l (.ok (some o))) :
    ∃ k s id, l = k ++ [⟨s, .call (.readOwner id), .ok o⟩] := by
  generalize hr : Except.ok (some o) = r at h
  cases h with
  | unmanaged h => cases hr
  | unread h s f => cases hr
  | direct h hs s =>
      cases hr
      exact ⟨[], s, _, rfl⟩
  | through h hs s s' r =>
      obtain ⟨o', rfl, ho⟩ := Fault.map_eq_ok_iff.mp hr.symm
      cases ho
      exact ⟨[_], s', _, rfl⟩

end Ownership

/-! ## The gate -/

/-- Whether a cycle may come to its result right after the query. -/
def Query.settles : Query → Bool
  | .call (.readOwner _) => false
  | .clock => false
  | _ => true

/-- The last exchange, if there is one, may be the last of all. -/
def Cycle.Settled (l : List (Exchange σ)) : Prop := ∀ e ∈ l.getLast?, e.query.settles = true

@[simp] theorem Cycle.settled_concat {l : List (Exchange σ)} {e : Exchange σ} :
    Settled (l ++ [e]) ↔ e.query.settles = true := by
  simp [Settled]

theorem Cycle.Settled.append {l l' : List (Exchange σ)} (h : Settled l) (h' : Settled l') :
    Settled (l ++ l') := by
  rcases List.eq_nil_or_concat' l' with rfl | ⟨k, e, rfl⟩
  · rwa [List.append_nil]
  · rw [← List.append_assoc, settled_concat]
    exact settled_concat.mp h'

namespace Admission

variable {p : Pod} {now : Instant} {l : List (Exchange σ)}

theorem Knows.orderly {owner : Option Owner} (h : Knows p l owner) (hp : p.Sound c) :
    Cycle.Orderly c l := by
  obtain ⟨r, hr, -⟩ := h
  exact hr.orderly hp

theorem Knows.resolves {o : Owner} (h : Knows p l (some o)) :
    Ownership.Resolves p l (.ok (some o)) := by
  obtain ⟨r, hr, ho⟩ := h
  simp only [known] at ho
  split at ho
  · cases ho
  · exact ho ▸ hr

/-- The reports of the gate are about the pod that it looks at. -/
theorem subject_of_obstacle? {r : Except Fault (Option String)} {e : Event} {message : String}
    (h : obstacle? p r = some (e, message)) :
    ∃ severity text, e = .make .budgetViolation severity (.ofPod p) text := by
  simp only [obstacle?] at h
  split at h
  · cases h
    exact ⟨_, _, rfl⟩
  · cases h
    exact ⟨_, _, rfl⟩
  · cases h

theorem Judges.orderly {d : Except Fault Decision} (h : Judges c.cooldownMark p now l d)
    (hp : p.Sound c) : Cycle.Orderly c l := by
  have subject := Subject.sound_ofPod hp
  cases h with
  | unresolved hr hf => exact hr.orderly hp
  | unreadable ho hc => exact ho.orderly hp
  | cooling ho hc s r message hd =>
      refine Cycle.orderly_append.mpr ⟨ho.orderly hp, fun _ => ⟨?_, fun _ => trivial⟩⟩
      exact Event.sound_make _ _ _ subject
  | free ho hc hv s =>
      exact Cycle.orderly_append.mpr ⟨ho.orderly hp, fun _ => ⟨hp.ns, fun _ => trivial⟩⟩
  | hindered ho hc hv s s' r hd =>
      obtain ⟨severity, text, rfl⟩ := subject_of_obstacle? hv
      refine Cycle.orderly_append.mpr ⟨ho.orderly hp, fun _ => ⟨hp.ns, fun _ => ?_⟩⟩
      exact ⟨Event.sound_make _ _ _ subject, fun _ => trivial⟩
  | unclear ho hc hf hv s =>
      exact Cycle.orderly_append.mpr ⟨ho.orderly hp, fun _ => ⟨hp.ns, fun _ => trivial⟩⟩

theorem Judges.settled {d : Decision} (h : Judges c.cooldownMark p now l (.ok d)) :
    ∃ k e, l = k ++ [e] ∧ e.query.settles = true := by
  generalize hd : Except.ok d = o at h
  cases h with
  | unresolved hr hf => cases hd
  | unreadable ho hc => cases hd
  | cooling ho hc s r message hd => exact ⟨_, _, rfl, rfl⟩
  | free ho hc hv s => exact ⟨_, _, rfl, rfl⟩
  | hindered ho hc hv s s' r hd => exact ⟨_, _, List.append_cons .., rfl⟩
  | unclear ho hc hf hv s => cases hd

/-- What a gate that gets sane replies fails on is the deadline of an owner. -/
theorem Judges.of_error {f : Fault} (h : Judges c.cooldownMark p now l (.error f))
    (sane : ∀ e ∈ l, e.Sane c) :
    ∃ o, Knows p l (some o) ∧ Cooldown.deadline c.cooldownMark o = .error f := by
  generalize hd : Except.error f = o at h
  cases h with
  | @unresolved l r f' hr hf =>
      cases r with
      | ok owner => cases hf
      | error f =>
          obtain ⟨message, rfl⟩ := (hr.of_sane sane).2 f rfl
          cases hf
  | @unreadable l owner f' ho hc =>
      cases hd
      cases owner with
      | none => cases hc
      | some o => exact ⟨o, ho, Fault.map_eq_error_iff.mp (Fault.map_eq_error_iff.mp hc)⟩
  | cooling ho hc s r message hr =>
      have recorded : r = .ok () := sane _ (List.mem_append_right _ (List.mem_singleton_self _))
      rw [recorded, ← hd] at hr
      cases hr
  | free ho hc hv s => cases hd
  | hindered ho hc hv s s' r hr =>
      have recorded : r = .ok () :=
        sane _ (List.mem_append_right _ (List.mem_cons_of_mem _ (List.mem_singleton_self _)))
      rw [recorded, ← hd] at hr
      cases hr
  | @unclear l owner bs f' ho hc hf hv s =>
      have listed : (Call.listBudgets p.ns).Accepts c bs :=
        sane _ (List.mem_append_right _ (List.mem_singleton_self _))
      cases bs with
      | ok bs =>
          obtain ⟨v, hv'⟩ := violated?_isOk listed p
          rw [Except.bind, hv'] at hf
          cases hf
      | error f =>
          obtain ⟨message, rfl⟩ := listed
          cases hf
          cases hv

end Admission

/-! ## One visit -/

namespace Cycle

/-- What ends a cycle on a fault: the gate read an owner whose deadline cannot be told, or an owner has
no next deadline at the time that the clock shows after the eviction of a pod. -/
inductive Breaks (c : Config) : List (Exchange σ) → Prop where
  | unreadable {l s id o f} (hd : Cooldown.deadline c.cooldownMark o = .error f) :
      Breaks c (l ++ [⟨s, .call (.readOwner id), .ok o⟩])
  | endless {l k p o bs node now previous s s' s'' s₃} (hk : Admission.Knows p k (some o))
      (hd : Cooldown.deadline c.cooldownMark o = .ok previous)
      (hn : Cooldown.next? (.utc now) c.recheckInterval previous = none) :
      Breaks c (l ++ (k ++ [⟨s, .call (.listBudgets p.ns), .ok bs⟩,
        ⟨s', .call (.evict p c.gracePeriod), .ok ()⟩, ⟨s'', .record (.podEvicted p node), .ok ()⟩,
        ⟨s₃, .clock, .ok now⟩]))

theorem Breaks.append_left {l : List (Exchange σ)} (h : Breaks c l) (k : List (Exchange σ)) :
    Breaks c (k ++ l) := by
  cases h with
  | unreadable hd =>
      rw [← List.append_assoc]
      exact .unreadable hd
  | endless hk hd hn =>
      rw [← List.append_assoc]
      exact .endless hk hd hn

variable {profiles : ProfileStore} {n : Node} {p : Pod} {owner : Option Owner}
  {l : List (Exchange σ)}

theorem CoolsDown.orderly {u : Except Fault Unit} (h : CoolsDown c owner l u)
    (howner : ∀ o, owner = some o → o.Sound c) : Orderly c l := by
  cases h with
  | unowned => exact orderly_nil
  | timeless s f => exact ⟨trivial, fun _ => trivial⟩
  | @recorded o t l v hl s u hu =>
      have sound := howner o rfl
      have subject := Subject.sound_ofOwner sound
      refine ⟨trivial, fun _ => ?_⟩
      cases hl with
      | unreadable hd => exact orderly_nil
      | endless hd hn => exact orderly_nil
      | written hd hn s s' r hv =>
          exact ⟨⟨sound, _, rfl⟩, fun _ => ⟨Event.sound_make _ _ _ subject, fun _ => trivial⟩⟩
      | refused hd hn s message s' r hv =>
          exact ⟨⟨sound, _, rfl⟩, fun _ => ⟨Event.sound_make _ _ _ subject, fun _ => trivial⟩⟩
      | broken hd hn hf s => exact ⟨⟨sound, _, rfl⟩, fun _ => trivial⟩

theorem Attempts.orderly {v : Except Fault Verdict} (h : Attempts c n p owner l v) (hp : p.Sound c)
    (howner : ∀ o, owner = some o → o.Sound c) : Orderly c l := by
  have subject := Subject.sound_ofPod hp
  have asks : (Query.call (.evict p c.gracePeriod)).Sound c := ⟨hp, rfl⟩
  cases h with
  | rateLimited ha s s' r hv =>
      exact ⟨asks, fun _ => ⟨Event.sound_make _ _ _ subject, fun _ => trivial⟩⟩
  | failed ha s s' r hv =>
      exact ⟨asks, fun _ => ⟨Event.sound_make _ _ _ subject, fun _ => trivial⟩⟩
  | broken ha s => exact ⟨asks, fun _ => trivial⟩
  | unreported s s' f => exact ⟨asks, fun _ => ⟨Event.sound_make _ _ _ subject, fun _ => trivial⟩⟩
  | evicted hl s s' hv =>
      exact ⟨asks, fun _ => ⟨Event.sound_make _ _ _ subject, fun _ => hl.orderly howner⟩⟩

theorem Visits.orderly {v : Except Fault Verdict} (h : Visits c profiles n p l v)
    (hp : p.Sound c) : Orderly c l := by
  cases h with
  | cancelled s => exact ⟨trivial, fun _ => trivial⟩
  | ineligible he s => exact ⟨trivial, fun _ => trivial⟩
  | timeless he s s' f => exact ⟨trivial, fun _ => ⟨trivial, fun _ => trivial⟩⟩
  | unjudged he hj s s' => exact ⟨trivial, fun _ => ⟨trivial, fun _ => hj.orderly hp⟩⟩
  | rejected he hj hd s s' => exact ⟨trivial, fun _ => ⟨trivial, fun _ => hj.orderly hp⟩⟩
  | @admitted now l l' d v he hj hd ha s s' =>
      refine ⟨trivial, fun _ => ⟨trivial, fun _ => ?_⟩⟩
      refine orderly_append.mpr ⟨hj.orderly hp, fun sane => ha.orderly hp fun o ho => ?_⟩
      obtain ⟨k, s, bs, rfl, hk, -⟩ := hj.of_admitted hd
      rw [ho] at hk
      exact (hk.resolves.of_sane fun e he => sane e (by simp [he])).1 o rfl

theorem CoolsDown.settled (h : CoolsDown c owner l (.ok ())) : Settled l := by
  generalize hu : Except.ok () = u at h
  cases h with
  | unowned => simp [Settled]
  | timeless s f => cases hu
  | recorded hl s hv =>
      rw [← hu, Fault.map_eq_ok_iff] at hv
      obtain ⟨_, rfl, -⟩ := hv
      generalize hv : Except.ok _ = v at hl
      cases hl with
      | unreadable hd => cases hv
      | endless hd hn => cases hv
      | written hd hn s s' r hv => exact settled_concat (l := [_, _]).mpr rfl
      | refused hd hn s message s' r hv => exact settled_concat (l := [_, _]).mpr rfl
      | broken hd hn hf s => cases hv

theorem Attempts.settled {v : Verdict} (h : Attempts c n p owner l (.ok v)) : Settled l := by
  generalize hv : Except.ok v = o at h
  cases h with
  | rateLimited ha s s' r hr => exact settled_concat (l := [_]).mpr rfl
  | failed ha s s' r hr => exact settled_concat (l := [_]).mpr rfl
  | broken ha s => cases hv
  | unreported s s' f => cases hv
  | @evicted l u hl s s' v hu =>
      obtain ⟨_, rfl, -⟩ := Fault.map_eq_ok_iff.mp (hu.trans hv.symm)
      have recorded : Settled ([⟨s, .call (.evict p c.gracePeriod), .ok ()⟩,
          ⟨s', .record (.podEvicted p n.name), .ok ()⟩] : List (Exchange σ)) :=
        settled_concat (l := [_]).mpr rfl
      exact recorded.append hl.settled

theorem Visits.settled {v : Verdict} (h : Visits c profiles n p l (.ok v)) : Settled l := by
  have judged {s s' : σ} {now : Instant} {l : List (Exchange σ)} {d : Decision}
      (hj : Admission.Judges c.cooldownMark p now l (.ok d)) :
      Settled (⟨s, .cancelled, false⟩ :: ⟨s', .clock, .ok now⟩ :: l) := by
    obtain ⟨k, e, rfl, he⟩ := hj.settled
    exact settled_concat (l := _ :: _ :: k).mpr he
  generalize hv : Except.ok v = o at h
  cases h with
  | cancelled s => exact settled_concat (l := []).mpr rfl
  | ineligible he s => exact settled_concat (l := []).mpr rfl
  | timeless he s s' f => cases hv
  | unjudged he hj s s' => cases hv
  | rejected he hj hd s s' => exact judged hj
  | admitted he hj hd ha s s' =>
      rw [← hv] at ha
      exact (judged hj).append ha.settled

/-- What follows an eviction fails, if the replies are sane, on the next deadline. -/
theorem CoolsDown.of_error {f : Fault} (h : CoolsDown c owner l (.error f))
    (sane : ∀ e ∈ l, e.Sane c)
    (readable : ∀ o, owner = some o → ∃ d, Cooldown.deadline c.cooldownMark o = .ok d) :
    ∃ o previous s now, owner = some o ∧ l = [⟨s, .clock, .ok now⟩] ∧
      Cooldown.deadline c.cooldownMark o = .ok previous ∧
      Cooldown.next? (.utc now) c.recheckInterval previous = none := by
  generalize hu : Except.error f = u at h
  cases h with
  | unowned => cases hu
  | timeless s f =>
      obtain ⟨now, hnow, -⟩ := sane _ (List.mem_singleton_self _)
      cases hnow
  | @recorded o t l v hl s u hv =>
      rw [← hu, Fault.map_eq_error_iff] at hv
      obtain ⟨previous, hd⟩ := readable o rfl
      cases hl with
      | unreadable hd' => rw [hd] at hd'; cases hd'
      | endless hd' hn => exact ⟨o, _, s, t, rfl, rfl, hd', hn⟩
      | written hd' hn s₁ s₂ r hr =>
          have recorded : r = .ok () := sane _ (List.mem_of_getLast? rfl)
          rw [recorded, hv] at hr
          cases hr
      | refused hd' hn s₁ message s₂ r hr =>
          have recorded : r = .ok () := sane _ (List.mem_of_getLast? rfl)
          rw [recorded, hv] at hr
          cases hr
      | @broken _ _ f' hd' hn hf s₁ =>
          have patched : (Call.annotateOwner o _).Accepts c (.error f') :=
            sane _ (List.mem_of_getLast? rfl)
          obtain ⟨message, rfl⟩ := patched f' rfl
          exact absurd rfl (hf message)

/-- What ends an attempt on a fault, if the replies are sane, is the next deadline. -/
theorem Attempts.of_error {f : Fault} (h : Attempts c n p owner l (.error f))
    (sane : ∀ e ∈ l, e.Sane c)
    (readable : ∀ o, owner = some o → ∃ d, Cooldown.deadline c.cooldownMark o = .ok d) :
    ∃ o previous s s' s'' now, owner = some o ∧
      l = [⟨s, .call (.evict p c.gracePeriod), .ok ()⟩, ⟨s', .record (.podEvicted p n.name), .ok ()⟩,
        ⟨s'', .clock, .ok now⟩] ∧
      Cooldown.deadline c.cooldownMark o = .ok previous ∧
      Cooldown.next? (.utc now) c.recheckInterval previous = none := by
  generalize hv : Except.error f = v at h
  cases h with
  | @rateLimited a message ha s₁ s₂ r v hr =>
      have recorded : r = .ok () := sane _ (List.mem_of_getLast? rfl)
      rw [recorded, ← hv] at hr
      cases hr
  | @failed a message ha s₁ s₂ r v hr =>
      have recorded : r = .ok () := sane _ (List.mem_of_getLast? rfl)
      rw [recorded, ← hv] at hr
      cases hr
  | broken ha s₁ => exact absurd ha (sane _ (List.mem_singleton_self _))
  | unreported s₁ s₂ f =>
      have recorded := sane _ (List.mem_of_getLast? rfl)
      cases recorded
  | @evicted l u hl s₁ s₂ v hu =>
      rw [← hv, Fault.map_eq_error_iff] at hu
      rw [hu] at hl
      obtain ⟨o, previous, s₃, now, ho, rfl, hd, hn⟩ :=
        hl.of_error (fun e he => sane e (by simp [he])) readable
      exact ⟨o, previous, s₁, s₂, s₃, now, ho, rfl, hd, hn⟩

/-- A gate that admits a pod has read the deadline of its owner. -/
theorem readable_of_free {now : Instant}
    (hc : Admission.cooldownOf c.cooldownMark owner now = .ok none) (o : Owner) (ho : owner = some o) :
    ∃ d, Cooldown.deadline c.cooldownMark o = .ok d := by
  rw [ho] at hc
  obtain ⟨d, hd, -⟩ := Cooldown.active_eq_none_iff.mp (by simpa [Admission.cooldownOf] using hc)
  exact ⟨d, hd⟩

/-- What ends a visit on a fault, if the replies are sane, is the calendar. -/
theorem Visits.breaks {f : Fault} (h : Visits c profiles n p l (.error f))
    (sane : ∀ e ∈ l, e.Sane c) : Breaks c l := by
  generalize hv : Except.error f = o at h
  cases h with
  | cancelled s => cases hv
  | ineligible he s => cases hv
  | timeless he s s' f =>
      obtain ⟨now, hnow, -⟩ := sane _ (List.mem_of_getLast? rfl)
      cases hnow
  | @unjudged now l f he hj s s' =>
      obtain ⟨o, hk, hd⟩ := hj.of_error fun e he => sane e (by simp [he])
      obtain ⟨k, s₀, id, rfl⟩ := hk.resolves.last
      exact (Breaks.unreadable hd).append_left [_, _]
  | rejected he hj hd s s' => cases hv
  | @admitted now l l' d v he hj hd ha s s' =>
      obtain ⟨k, s₀, bs, rfl, hk, hc, -⟩ := hj.of_admitted hd
      rw [← hv] at ha
      obtain ⟨o, previous, s₁, s₂, s₃, now', ho, rfl, hd', hn⟩ :=
        ha.of_error (fun e he => sane e (by simp [he])) (readable_of_free hc)
      rw [ho] at hk
      have ended : Breaks c ([⟨s, .cancelled, false⟩, ⟨s', .clock, .ok now⟩] ++ (k ++
          [⟨s₀, .call (.listBudgets p.ns), .ok bs⟩, ⟨s₁, .call (.evict p c.gracePeriod), .ok ()⟩,
            ⟨s₂, .record (.podEvicted p n.name), .ok ()⟩, ⟨s₃, .clock, .ok now'⟩])) :=
        .endless hk hd' hn
      simpa using ended

/-! ## The whole cycle -/

/-- Sound queries all along, and with sane replies no other end on a fault than by the calendar. -/
def Conducts {α : Type} (c : Config) (o : Except Fault α) (l : List (Exchange σ)) : Prop :=
  Orderly c l ∧ ((∀ e ∈ l, e.Sane c) →
    match o with
    | .ok _ => Settled l
    | .error _ => Breaks c l)

/-- Nothing is demanded of what follows a reply that is not sane. -/
theorem conducts_of_insane {α : Type} {o : Except Fault α} {k : List (Exchange σ)}
    (ordered : Orderly c l) (insane : ¬ ∀ e ∈ l, e.Sane c) : Conducts c o (l ++ k) := by
  refine ⟨orderly_append.mpr ⟨ordered, fun sane => absurd sane insane⟩, fun sane => ?_⟩
  exact absurd (fun e he => sane e (List.mem_append_left k he)) insane

theorem Visits.conducts {v : Except Fault Verdict} {k : List (Exchange σ)}
    (h : Visits c profiles n p k v) (hp : p.Sound c) (past : Conducts c (.ok ()) l) :
    Conducts c v (l ++ k) := by
  refine ⟨orderly_append.mpr ⟨past.1, fun _ => h.orderly hp⟩, fun sane => ?_⟩
  have settled : Settled l := past.2 fun e he => sane e (List.mem_append_left k he)
  cases v with
  | ok v => exact settled.append h.settled
  | error f => exact (h.breaks fun e he => sane e (List.mem_append_right l he)).append_left l

variable {w : World σ} {s : σ} {pods : List Pod}

theorem conducts_walk {ranked : List Pod} (hp : ∀ p ∈ ranked, p.Sound c)
    (past : Conducts c (.ok ()) l) :
    (walk c profiles n [] ranked).Ensures w l s fun o l _ => Conducts c o l := by
  refine walk_ensures (I := fun _ ranked l _ =>
    (∀ p ∈ ranked, p.Sound c) ∧ Conducts c (.ok ()) l) ?_ ?_ ⟨hp, past⟩
  · rintro taken ranked l s ⟨-, past⟩ -
    exact past
  · rintro taken p rest l s ⟨hp, past⟩ -
    apply Plan.Ensures.of_course
    intro k v s' hk _
    have conducts := (visits_of_course hk).conducts (hp p (by simp)) past
    have remaining : ∀ q ∈ rest, q.Sound c := fun q hq => hp q (by simp [hq])
    match v, conducts with
    | .ok .passed, conducts => exact ⟨remaining, conducts⟩
    | .ok .evicted, conducts => exact ⟨fun _ => conducts, fun _ => ⟨remaining, conducts⟩⟩
    | .ok .rateLimited, conducts => exact conducts
    | .ok .cancelled, conducts => exact conducts
    | .error f, conducts => exact conducts

theorem conducts_relieve {evicted : List String} {nodes : List Node} (hc : c.Sound)
    (hprofiles : profiles.Sound) (hp : ∀ p ∈ pods, p.Sound c) (past : Conducts c (.ok ()) l) :
    (relieve c profiles pods evicted nodes).Ensures w l s fun o l _ => Conducts c o l := by
  refine relieve_ensures (J := fun _ _ l _ => Conducts c (.ok ()) l) ?_ ?_ ?_ past
  · intro evicted l s past
    exact past
  · intro evicted n rest l s f _ unranked
    have sound : ∀ p ∈ candidates n pods, p.Sound c := fun p hp' => hp p (List.mem_of_mem_filter hp')
    obtain ⟨ranked, hr⟩ := Ranking.rank_isOk hc hprofiles sound
    rw [hr] at unranked
    cases unranked
  · intro evicted n rest l s ranked past hr
    have perm := perm_of_rank hr
    have sound : ∀ p ∈ ranked, p.Sound c := fun p hp' =>
      hp p (List.mem_of_mem_filter (perm.mem_iff.mp hp'))
    refine (conducts_walk sound past).mono ?_
    intro o l s conducts
    match o, conducts with
    | .ok ⟨taken, .rateLimited⟩, conducts => exact conducts
    | .ok ⟨taken, .cancelled⟩, conducts => exact conducts
    | .ok ⟨taken, .finished⟩, conducts => exact ⟨fun _ _ => conducts, fun _ => conducts⟩
    | .error f, conducts => exact conducts

theorem Announces.orderly {es : List Event} {o : Except Fault Unit} (h : Announces es l o)
    (he : ∀ e ∈ es, e.Sound) : Orderly c l := by
  induction h with
  | done => exact orderly_nil
  | told h s ih => exact ⟨he _ (by simp), fun _ => ih fun e he' => he e (by simp [he'])⟩
  | failed s f => exact ⟨he _ (by simp), fun _ => trivial⟩

theorem Announces.not_error {es : List Event} {f : Fault} (h : Announces es l (.error f)) :
    ¬ ∀ e ∈ l, e.Sane c := by
  intro sane
  generalize ho : Except.error f = o at h
  induction h with
  | done => cases ho
  | told h s ih => exact ih (fun e he => sane e (by simp [he])) ho
  | failed s f =>
      have recorded := sane _ (List.mem_singleton_self _)
      cases recorded

/-- Sound nodes are listed, and the degraded ones announced, in good order. -/
theorem orderly_announces {nodes ds : List Node} {k k' : List (Exchange σ)} {s s' : σ}
    {o : Except Fault Unit} (hd : degraded c nodes = .ok ds)
    (hk : Announces (ds.map .nodeDegraded) k o) (rest : Orderly c k') :
    Orderly c (⟨s, .cancelled, false⟩ :: ⟨s', .call .listNodes, .ok nodes⟩ :: (k ++ k')) := by
  refine ⟨trivial, fun _ => ⟨trivial, fun sound => orderly_append.mpr ⟨?_, fun _ => rest⟩⟩⟩
  obtain ⟨-, rfl⟩ := Fault.ifKey_eq_ok_iff.mp hd
  apply hk.orderly
  intro e he
  obtain ⟨n, hn, rfl⟩ := List.mem_map.mp he
  exact Event.sound_make _ _ _ (Subject.sound_ofNode (sound n (List.mem_of_mem_filter hn)))

/-- The opening asks sound queries; with sane replies it does not fail. -/
theorem Opens.conducts {o : Except Fault (CycleResult ⊕ List Node × List Pod)} (hc : c.Sound)
    (h : Opens c profiles l o) : Conducts c o l := by
  cases h with
  | unprofiled hp => exact ⟨trivial, fun _ => by simp [Settled]⟩
  | cancelled s => exact ⟨⟨trivial, fun _ => trivial⟩, fun _ => settled_concat (l := []).mpr rfl⟩
  | nodesUnlisted s s' message =>
      refine ⟨⟨trivial, fun _ => ⟨trivial, fun _ => trivial⟩⟩, fun _ => ?_⟩
      exact settled_concat (l := [_]).mpr rfl
  | nodesBroken hf s s' =>
      refine ⟨⟨trivial, fun _ => ⟨trivial, fun _ => trivial⟩⟩, fun sane => ?_⟩
      obtain ⟨message, rfl⟩ := sane _ (List.mem_of_getLast? rfl)
      exact absurd rfl (hf message)
  | @unmarked nodes f hd s s' =>
      obtain ⟨ds, hd'⟩ := degraded_isOk hc nodes
      rw [hd'] at hd
      cases hd
  | @unannounced nodes ds k f hd hk s s' =>
      refine ⟨by simpa using orderly_announces hd hk orderly_nil, fun sane => ?_⟩
      exact absurd (fun e he => sane e (by simp [he])) hk.not_error
  | healthy hd s s' =>
      refine ⟨⟨trivial, fun _ => ⟨trivial, fun _ => trivial⟩⟩, fun _ => ?_⟩
      exact settled_concat (l := [_]).mpr rfl
  | @stopped nodes ds k hd hk s s' s'' =>
      refine ⟨orderly_announces hd hk ⟨trivial, fun _ => trivial⟩, fun _ => ?_⟩
      exact settled_concat (l := _ :: _ :: k).mpr rfl
  | @podsUnlisted nodes n ds k hd hk s s' s'' s₃ message =>
      refine ⟨orderly_announces hd hk ⟨trivial, fun _ => ⟨trivial, fun _ => trivial⟩⟩, fun _ => ?_⟩
      rw [List.append_cons]
      exact settled_concat (l := _ :: _ :: (k ++ [_])).mpr rfl
  | @podsBroken nodes ds k f hd hk hf s s' s'' s₃ =>
      refine ⟨orderly_announces hd hk ⟨trivial, fun _ => ⟨trivial, fun _ => trivial⟩⟩, fun sane => ?_⟩
      obtain ⟨message, rfl⟩ : (Call.listPods).Accepts c (.error f) :=
        sane ⟨s₃, .call .listPods, .error f⟩ (by simp)
      exact absurd rfl (hf message)
  | @opened nodes ds k pods hd hk s s' s'' s₃ =>
      refine ⟨orderly_announces hd hk ⟨trivial, fun _ => ⟨trivial, fun _ => trivial⟩⟩, fun _ => ?_⟩
      rw [List.append_cons]
      exact settled_concat (l := _ :: _ :: (k ++ [_])).mpr rfl

/-- A cycle is in good order, whatever the world. -/
theorem conducts_reconcile (hc : c.Sound) (hprofiles : profiles.Sound) (w : World σ) (s : σ) :
    Conducts c ((reconcile c profiles).run w s).outcome ((reconcile c profiles).run w s).exchanges := by
  refine reconcile_ensures (l := []) (Q := fun o l _ => Conducts c o l) fun k o s' hk _ => ?_
  have conducts := hk.conducts hc
  match o, hk, conducts with
  | .error f, _, conducts => exact conducts
  | .ok (.inl r), _, conducts => exact conducts
  | .ok (.inr (nodes, pods)), hk, conducts =>
    by_cases sane : ∀ e ∈ k, e.Sane c
    · obtain ⟨s₀, s₁, _, -, -, listed⟩ := hk.of_opened
      exact conducts_relieve hc hprofiles (sane _ listed) conducts
    · exact conducts_of_insane conducts.1 sane

end Cycle

end NodeRelief
