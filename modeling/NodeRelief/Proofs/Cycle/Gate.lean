import NodeRelief.Proofs.Cycle.Selection

/-! # The decision of the gate

What the gate finds about a pod depends on the cluster, the pod and the time alone. It looks at the
cooldown first and lists the budgets only if there is none; a failed look-up of the owner counts for the
pod, a failed list of budgets against it, and a budget with a malformed selector does not count. -/

namespace NodeRelief

/-! ## Budgets -/

/-- Whether the selector of a budget, if it has one, is well-formed. -/
def Budget.isWellFormed (b : Budget) : Bool := b.selector.all (·.flaw?.isNone)

namespace Admission

theorem forbids_malformed {b : Budget} (h : b.isWellFormed = false) (labels : Labels) :
    forbids b labels = .ok false := by
  rw [Budget.isWellFormed] at h
  cases hs : b.selector with
  | none => rw [hs] at h; cases h
  | some s =>
      rw [hs] at h
      obtain ⟨flaw, hflaw⟩ : ∃ flaw, s.flaw? = some flaw := by
        rw [← Option.isSome_iff_exists]
        simpa using h
      simp [forbids, selects, hs, hflaw, SelectorFlaw.fault]

/-- Budgets with malformed selectors are passed over. -/
theorem violated?_filter (p : Pod) (bs : List Budget) :
    violated? p (bs.filter (·.isWellFormed)) = violated? p bs := by
  induction bs with
  | nil => rfl
  | cons b bs ih =>
      cases h : b.isWellFormed with
      | true => rw [List.filter_cons_of_pos h, violated?, violated?, ih]
      | false => rw [List.filter_cons_of_neg (by simp [h]), ih, violated?, forbids_malformed h]

theorem violated?_eq_none_iff {p : Pod} {bs : List Budget} (h : ∀ b ∈ bs, b.Sound) :
    violated? p bs = .ok none ↔
      ¬ ∃ b ∈ bs, selects b.selector p.labels = .ok true ∧ b.allowed.agrees (.int 0) = true := by
  constructor
  · rintro free ⟨b, hb, selected, used⟩
    rw [of_violated?_eq_none free b hb selected] at used
    cases used
  · intro free
    obtain ⟨v, hv⟩ := violated?_isOk h p
    cases v with
    | none => exact hv
    | some reason => exact absurd (of_violated?_eq_some hv) free

end Admission

/-! ## What a cluster answers the gate -/

namespace Cluster

variable {c : Cluster}

theorem readOwner_eq_error {id : OwnerId} {f : Fault} (key : id.isKey = true)
    (h : c.readOwner id = .error f) : ∃ message, f = .ownerLookup message := by
  rw [readOwner, failure?_of_isKey (.reading id) key] at h
  simp only [bind, Except.bind] at h
  split at h
  · cases h
    exact ⟨_, rfl⟩
  · cases h
    exact ⟨_, rfl⟩
  · cases h

theorem listBudgets_eq_error {ns f} (key : Document.isKey ns = true) (h : c.listBudgets ns = .error f) :
    ∃ message, f = .listing message := by
  rw [listBudgets, failure?_of_isKey (.budgets ns) key] at h
  simp only [bind, Except.bind] at h
  split at h
  · cases h
    exact ⟨_, rfl⟩
  · cases h

/-- The pod has an owner whose deadline is still ahead. -/
def Cooling (c : Cluster) (mark : Document) (p : Pod) (now : Instant) : Prop :=
  ∃ o t, c.resolve p = .ok (some o) ∧ Cooldown.deadline mark o = .ok (some t) ∧ now < t

/-- The budgets of the pod's namespace cannot be listed, or one of them, with a selector that is
well-formed and selects the pod, is used up. -/
def Obstructed (c : Cluster) (p : Pod) : Prop :=
  (∃ f, c.listBudgets p.ns = .error f) ∨
    ∃ bs, c.listBudgets p.ns = .ok bs ∧
      ∃ b ∈ bs, selects b.selector p.labels = .ok true ∧ b.allowed.agrees (.int 0) = true

end Cluster

namespace Scene

/-- Calls leave the recorder as it is. -/
theorem recorder_of_calls {κ : Type} {backend : Backend κ} {l : List (Exchange (Scene κ))}
    {s s' : Scene κ} (h : ∀ e ∈ l, e.query.isCall = true) (hl : (world backend).Leads s l s') :
    s'.recorder = s.recorder := by
  induction l generalizing s with
  | nil => rw [show s = s' from hl]
  | cons e l ih =>
      obtain ⟨s₀, q, r⟩ := e
      obtain ⟨rfl, s₁, hr, hl⟩ := World.Leads.cons_iff.mp hl
      rw [ih (fun e he => h e (by simp [he])) hl]
      cases q with
      | call c => exact congrArg (recorder ·.2) hr.symm
      | _ => cases h _ List.mem_cons_self

end Scene

namespace Admission

/-- Names are texts, budgets can be held against labels, and no annotation tells an instant outside the
calendar. The name of the pod may be empty. -/
structure Posed (mark : Document) (c : Cluster) (p : Pod) : Prop where
  markKey : mark.isKey = true
  ns : p.ns.isText = true
  references : ∀ r ∈ p.owners, r.name.isText = true
  owners : ∀ o ∈ c.owners.items, ∀ r ∈ o.owners, r.name.isText = true
  annotations : ∀ o ∈ c.owners.items, ∀ d ∈ o.annotations.get? mark,
    ∃ text, d = .text text ∧ ¬ Timestamp.Escapes text
  budgets : ∀ b ∈ c.budgets, b.Sound

namespace Posed

variable {mark : Document} {c : Cluster} {p : Pod}

theorem resolve_eq_error (h : Posed mark c p) {f : Fault} (hr : c.resolve p = .error f) :
    ∃ message, f = .ownerLookup message := by
  simp only [Cluster.resolve] at hr
  split at hr
  · cases hr
  · next kind name href =>
    have key : (⟨kind, p.ns, name⟩ : OwnerId).isKey = true :=
      OwnerId.isKey_of_isText h.ns (Ownership.isText_of_reference? h.references href)
    split at hr
    · next f' hread =>
      cases hr
      exact Cluster.readOwner_eq_error key hread
    · next owner hread =>
      split at hr
      · next parent hs =>
        have stored := (Register.mem_of_find? (Cluster.owner?_of_readOwner hread)).1
        have name := Ownership.isText_of_successor? (h.owners owner stored) hs
        exact Cluster.readOwner_eq_error (OwnerId.isKey_of_isText h.ns name)
          (Fault.map_eq_error_iff.mp hr)
      · cases hr

/-- The gate comes to know the owner that the pod resolves to, and none if it resolves to none. -/
theorem known_isOk (h : Posed mark c p) : ∃ owner, known (c.resolve p) = .ok owner ∧
    ∀ o, owner = some o ↔ c.resolve p = .ok (some o) := by
  cases hr : c.resolve p with
  | ok owner => exact ⟨owner, rfl, by simp⟩
  | error f =>
      obtain ⟨message, rfl⟩ := h.resolve_eq_error hr
      exact ⟨none, rfl, by simp⟩

theorem deadline_isOk (h : Posed mark c p) {o : Owner} (hr : c.resolve p = .ok (some o)) :
    ∃ d, Cooldown.deadline mark o = .ok d := by
  have stored := (Register.mem_of_find? (Cluster.owner?_resolve hr)).1
  cases hd : o.annotations.get? mark with
  | none => exact ⟨none, Cooldown.deadline_eq_ok_iff.mpr ⟨h.markKey, .inl ⟨hd, rfl⟩⟩⟩
  | some d =>
      obtain ⟨text, rfl, inside⟩ := h.annotations o stored d hd
      cases ht : Timestamp.read text with
      | ok t => exact ⟨t, Cooldown.deadline_eq_ok_iff.mpr ⟨h.markKey, .inr ⟨_, hd, ht⟩⟩⟩
      | error f => exact absurd (Timestamp.read_eq_error_iff.mp ht).2 inside

/-- The cooldown of the owner can be told. -/
theorem cooldownOf_cases (h : Posed mark c p) (now : Instant) {owner : Option Owner}
    (known : ∀ o, owner = some o ↔ c.resolve p = .ok (some o)) :
    (∃ o t, owner = some o ∧ cooldownOf mark owner now = .ok (some (o, t)) ∧ c.Cooling mark p now) ∨
      cooldownOf mark owner now = .ok none ∧ ¬ c.Cooling mark p now := by
  cases owner with
  | none =>
      refine .inr ⟨rfl, ?_⟩
      rintro ⟨o, t, hr, -⟩
      cases (known o).mpr hr
  | some o =>
      have hr := (known o).mp rfl
      obtain ⟨d, hd⟩ := h.deadline_isOk hr
      have active : Cooldown.active mark o now = .ok (d.filter (now < ·)) := by
        rw [Cooldown.active, hd]
        rfl
      rw [cooldownOf, active]
      have past (early : ∀ t ∈ d, ¬ now < t) : ¬ c.Cooling mark p now := by
        rintro ⟨o', t, hr', hd', ahead⟩
        obtain rfl : o = o' := by simpa [hr] using hr'
        rw [hd] at hd'
        cases hd'
        exact early t rfl ahead
      cases d with
      | none => exact .inr ⟨rfl, past (by simp)⟩
      | some t =>
          by_cases ahead : now < t
          · exact .inl ⟨o, t, rfl, by simp [ahead], o, t, hr, hd, ahead⟩
          · exact .inr ⟨by simp [ahead], past (by simpa using ahead)⟩

/-- The budgets are in the way of the pod, and it can be told why, or they are not. -/
theorem obstacle?_cases (h : Posed mark c p) :
    (∃ e message, obstacle? p ((c.listBudgets p.ns).bind (violated? p)) = some (e, message) ∧
        c.Obstructed p) ∨
      (c.listBudgets p.ns).bind (violated? p) = .ok none ∧ ¬ c.Obstructed p := by
  cases hb : c.listBudgets p.ns with
  | error f =>
      obtain ⟨message, rfl⟩ := Cluster.listBudgets_eq_error (Document.isKey_of_isText h.ns) hb
      exact .inl ⟨_, _, rfl, .inl ⟨_, hb⟩⟩
  | ok bs =>
      have sound : ∀ b ∈ bs, b.Sound := by
        rw [Cluster.of_listBudgets hb]
        exact fun b hb => h.budgets b (List.mem_of_mem_filter hb)
      obtain ⟨v, hv⟩ := violated?_isOk sound p
      have bound : (Except.ok bs : Except Fault (List Budget)).bind (violated? p) = violated? p bs := rfl
      rw [bound, hv]
      cases v with
      | some reason => exact .inl ⟨_, _, rfl, .inr ⟨bs, hb, of_violated?_eq_some hv⟩⟩
      | none =>
          refine .inr ⟨rfl, ?_⟩
          rintro (⟨f, hf⟩ | ⟨bs', hbs', obstructed⟩)
          · rw [hb] at hf
            cases hf
          · rw [hb] at hbs'
            cases hbs'
            exact (violated?_eq_none_iff sound).mp hv obstructed

end Posed

/-! ## What the gate finds -/

/-- The decision by the budgets alone, and how it is reported if the pod is rejected. -/
def budgetFinding (c : Cluster) (p : Pod) (owner : Option Owner) :
    Except Fault (Decision × Option Event) :=
  let answer := (c.listBudgets p.ns).bind (violated? p)
  match obstacle? p answer with
  | some (e, message) => .ok (⟨owner, some (.budget, message)⟩, some e)
  | none => answer.map fun _ => (⟨owner, none⟩, none)

/-- The decision about a pod, and how it is reported if the pod is rejected. -/
def finding (c : Cluster) (mark : Document) (p : Pod) (now : Instant) :
    Except Fault (Decision × Option Event) := do
  let owner ← known (c.resolve p)
  match ← cooldownOf mark owner now with
  | some (o, deadline) =>
    let text := Timestamp.write deadline
    return (⟨owner, some (.cooldown, "owner " ++ o.name.plain ++ " in cooldown until " ++ text)⟩,
      some (.evictionSkipped p o text))
  | none => budgetFinding c p owner

/-- A decision of the gate, clause by clause. -/
structure Decided (c : Cluster) (mark : Document) (p : Pod) (now : Instant) (d : Decision) : Prop where
  owner : ∀ o, d.owner = some o ↔ c.resolve p = .ok (some o)
  cooldown : (∃ message, d.rejection = some (.cooldown, message)) ↔ c.Cooling mark p now
  budget : (∃ message, d.rejection = some (.budget, message)) ↔
    ¬ c.Cooling mark p now ∧ c.Obstructed p
  admitted : d.admitted = true ↔ ¬ c.Cooling mark p now ∧ ¬ c.Obstructed p

/-- Admitted pods are reported by no event, others by one about the pod. -/
inductive Reports (p : Pod) : Decision → Option Event → Prop where
  | admitted {d} (h : d.admitted = true) : Reports p d none
  | rejected {d} (h : d.admitted = false) (reason severity message) :
      Reports p d (some (.make reason severity (.ofPod p) message))

theorem reports_of_obstacle? {p : Pod} {v : Except Fault (Option String)} {e : Event}
    {message : String} {d : Decision} (h : obstacle? p v = some (e, message))
    (hd : d.admitted = false) : Reports p d (some e) := by
  simp only [obstacle?] at h
  split at h
  · cases h
    exact .rejected hd ..
  · cases h
    exact .rejected hd ..
  · cases h

/-- There is a finding about every pod. -/
theorem finding_isOk {c : Cluster} {mark : Document} {p : Pod} (h : Posed mark c p) (now : Instant) :
    ∃ d report, finding c mark p now = .ok (d, report) ∧ Decided c mark p now d ∧
      Reports p d report := by
  obtain ⟨owner, hk, howner⟩ := h.known_isOk
  simp only [finding, hk, Fault.ok_bind]
  rcases h.cooldownOf_cases now howner with ⟨o, t, -, hc, cooling⟩ | ⟨hc, free⟩
  · rw [hc]
    refine ⟨_, _, rfl, ⟨howner, ?_, ?_, ?_⟩, .rejected rfl ..⟩
    · simp [cooling]
    · simp [cooling]
    · simp [cooling, Decision.admitted]
  · rw [hc, Fault.ok_bind]
    rcases h.obstacle?_cases with ⟨e, message, hv, obstructed⟩ | ⟨hv, unobstructed⟩
    · simp only [budgetFinding, hv]
      refine ⟨_, _, rfl, ⟨howner, ?_, ?_, ?_⟩, reports_of_obstacle? hv rfl⟩
      · simp [free]
      · simp [free, obstructed]
      · simp [obstructed, Decision.admitted]
    · simp only [budgetFinding, hv]
      refine ⟨_, _, rfl, ⟨howner, ?_, ?_, ?_⟩, .admitted rfl⟩
      · simp [free]
      · simp [unobstructed]
      · simp [free, unobstructed, Decision.admitted]

/-! ## What the gate does -/

/-- The budgets were listed. -/
def Lists {σ : Type} (l : List (Exchange σ)) : Prop := ∃ e ∈ l, ∃ ns, e.query = .call (.listBudgets ns)

theorem ownerOf_ensures (p : Pod) (s : Scene Cluster) :
    (ownerOf p).Ensures Cluster.world [] s fun o l s' =>
      o = known (s.cluster.resolve p) ∧ ¬ Lists l ∧ s'.cluster = s.cluster ∧
        s'.recorder = s.recorder := by
  refine Plan.Ensures.of_course fun l o s' h hl => ?_
  obtain ⟨r, hr, rfl⟩ := knows_of_course h
  rw [List.nil_append]
  refine ⟨by rw [Cluster.of_resolves Cluster.hosts hr hl], ?_, ?_, ?_⟩
  · rintro ⟨e, he, ns, hq⟩
    obtain ⟨id, hread⟩ := hr.reads e he
    rw [hq] at hread
    cases hread
  · refine Cluster.hosts.cluster_of_reads (fun e he => ?_) hl
    exact Query.isRead_of_isInspection (hr.inspects e he)
  · refine Scene.recorder_of_calls (fun e he => ?_) hl
    obtain ⟨id, hread⟩ := hr.reads e he
    rw [hread]
    rfl

/-- What is answered when a finding has been reported to the recorder, and the recorder then. -/
def reported (r : Recorder) : Except Fault (Decision × Option Event) → Except Fault Decision × Recorder
  | .error f => (.error f, r)
  | .ok (d, none) => (.ok d, r)
  | .ok (d, some e) => ((r.record e).1.map fun _ => d, (r.record e).2)

theorem lists_append {σ : Type} {l l' : List (Exchange σ)} : Lists (l ++ l') ↔ Lists l ∨ Lists l' := by
  simp [Lists, or_and_right, exists_or]

/-- A rejection is answered as soon as it is recorded. -/
theorem record_ensures (e : Event) (d : Decision) (l : List (Exchange (Scene Cluster)))
    (s : Scene Cluster) :
    (Plan.record e >>= fun _ => pure d).Ensures Cluster.world l s fun o l' s' =>
      (o, s'.recorder) = reported s.recorder (.ok (d, some e)) ∧ s'.cluster = s.cluster ∧
        (Lists l' ↔ Lists l) := by
  have unlisted {r} : ¬ Lists (σ := Scene Cluster) [⟨s, .record e, r⟩] := by
    rintro ⟨_, hx, ns, hq⟩
    cases List.mem_singleton.mp hx
    cases hq
  have reply : Cluster.world.reply (.record e) s =
      ((s.recorder.record e).1, { s with recorder := (s.recorder.record e).2 }) := rfl
  rw [Plan.ensures_bind, Plan.ensures_record, reply, reported]
  cases (s.recorder.record e).1 <;> simp [Except.map, lists_append, unlisted]

theorem decideBudgets_ensures (p : Pod) (owner : Option Owner) (l : List (Exchange (Scene Cluster)))
    (s : Scene Cluster) :
    (decideBudgets p owner).Ensures Cluster.world l s fun o l' s' =>
      (o, s'.recorder) = reported s.recorder (budgetFinding s.cluster p owner) ∧
        s'.cluster = s.cluster ∧ Lists l' := by
  have reply : (Cluster.world.reply (.call (.listBudgets p.ns)) s).1 = s.cluster.listBudgets p.ns := rfl
  have kept : (Cluster.world.reply (.call (.listBudgets p.ns)) s).2.cluster = s.cluster ∧
      (Cluster.world.reply (.call (.listBudgets p.ns)) s).2.recorder = s.recorder := ⟨rfl, rfl⟩
  rw [decideBudgets, checkBudgets, bind_assoc, Plan.ensures_call_bind, pure_bind, reply, budgetFinding,
    ← kept.2]
  generalize s.cluster.listBudgets p.ns = bs
  rw [← kept.1]
  generalize (Cluster.world.reply (.call (.listBudgets p.ns)) s).2 = s₁
  have listed : Lists (l ++ [⟨s, .call (.listBudgets p.ns), bs⟩]) :=
    lists_append.mpr (.inr ⟨_, List.mem_singleton_self _, _, rfl⟩)
  have recorded (e : Event) (d : Decision) : (Plan.record e >>= fun _ => pure d).Ensures Cluster.world
      (l ++ [⟨s, .call (.listBudgets p.ns), bs⟩]) s₁ fun o l' s' =>
        (o, s'.recorder) = reported s₁.recorder (.ok (d, some e)) ∧ s'.cluster = s₁.cluster ∧
          Lists l' := by
    refine (record_ensures e d _ s₁).mono ?_
    rintro o l' s' ⟨told, kept, still⟩
    exact ⟨told, kept, still.mpr listed⟩
  cases bs.bind (violated? p) with
  | ok reason =>
      cases reason with
      | none => exact (Plan.ensures_pure _).mpr ⟨rfl, rfl, listed⟩
      | some reason => exact recorded (.budgetViolation p reason) _
  | error f =>
      cases f with
      | listing message => exact recorded (.budgetCheckFailed p message) _
      | _ => exact (Plan.ensures_fail _).mpr ⟨rfl, rfl, listed⟩

/-- The gate reports what it finds and changes nothing in the cluster; it lists the budgets if it knows
that there is no cooldown. -/
theorem evaluate_ensures (mark : Document) (p : Pod) (now : Instant) (s : Scene Cluster) :
    (evaluate mark p now).Ensures Cluster.world [] s fun o l s' =>
      (o, s'.recorder) = reported s.recorder (finding s.cluster mark p now) ∧
        s'.cluster = s.cluster ∧
        (Lists l ↔ ∃ owner, known (s.cluster.resolve p) = .ok owner ∧
          cooldownOf mark owner now = .ok none) := by
  rw [evaluate, Plan.ensures_bind]
  refine (ownerOf_ensures p s).mono ?_
  rintro o l s₁ ⟨rfl, unlisted, cluster, recorder⟩
  rw [finding]
  cases hk : known (s.cluster.resolve p) with
  | error f => exact ⟨Prod.ext rfl recorder, cluster, iff_of_false unlisted (by simp)⟩
  | ok owner =>
      simp only [Fault.ok_bind, Plan.ensures_bind, Plan.ensures_raise]
      cases hc : cooldownOf mark owner now with
      | error f => exact ⟨Prod.ext rfl recorder, cluster, iff_of_false unlisted (by simp [hc])⟩
      | ok cooldown =>
        rw [Fault.ok_bind, ← cluster, ← recorder]
        cases cooldown with
        | some held =>
          refine (record_ensures _ _ l s₁).mono ?_
          rintro o l' s' ⟨told, kept, still⟩
          exact ⟨told, kept, iff_of_false (mt still.mp unlisted) (by simp [hc])⟩
        | none =>
          refine (decideBudgets_ensures p owner l s₁).mono ?_
          rintro o l' s' ⟨told, kept, listed⟩
          exact ⟨told, kept, iff_of_true listed ⟨owner, rfl, hc⟩⟩

end Admission

/-! ## Other budgets -/

/-- The cluster with these budgets and no others. -/
def Cluster.withBudgets (c : Cluster) (bs : List Budget) : Cluster := { c with budgets := bs }

def Scene.withBudgets (s : Scene Cluster) (bs : List Budget) : Scene Cluster :=
  { s with cluster := s.cluster.withBudgets bs }

namespace Admission

theorem listBudgets_cases (c : Cluster) (ns : Document) :
    (∃ f, ∀ bs, (c.withBudgets bs).listBudgets ns = .error f) ∨
      ∀ bs, (c.withBudgets bs).listBudgets ns = .ok (bs.filter (·.ns.equals ns)) := by
  have failure (bs : List Budget) :
      (c.withBudgets bs).failure? (.budgets ns) = c.failure? (.budgets ns) := rfl
  simp only [Cluster.listBudgets, failure]
  cases c.failure? (.budgets ns) with
  | error f => exact .inl ⟨f, fun _ => rfl⟩
  | ok failure =>
      cases failure with
      | some f => exact .inl ⟨_, fun _ => rfl⟩
      | none => exact .inr fun _ => rfl

/-- Only the budgets with well-formed selectors count. -/
theorem finding_of_filter {c : Cluster} {bs : List Budget}
    (h : bs.filter (·.isWellFormed) = c.budgets.filter (·.isWellFormed)) (mark : Document) (p : Pod)
    (now : Instant) : finding (c.withBudgets bs) mark p now = finding c mark p now := by
  have answer : ((c.withBudgets bs).listBudgets p.ns).bind (violated? p) =
      (c.listBudgets p.ns).bind (violated? p) := by
    rcases listBudgets_cases c p.ns with ⟨f, unlisted⟩ | listed
    · rw [unlisted bs, ← unlisted c.budgets]
      rfl
    · have those : c.listBudgets p.ns = .ok (c.budgets.filter (·.ns.equals p.ns)) := listed c.budgets
      rw [listed bs, those]
      change violated? p (bs.filter _) = violated? p (c.budgets.filter _)
      have filters (l : List Budget) :
          (l.filter (·.ns.equals p.ns)).filter (·.isWellFormed) =
            (l.filter (·.isWellFormed)).filter (·.ns.equals p.ns) := List.filter_comm ..
      rw [← violated?_filter p (bs.filter _), ← violated?_filter p (c.budgets.filter _), filters,
        filters, h]
  simp only [finding, budgetFinding, answer]
  rfl

theorem obstructed_of_perm {c : Cluster} {bs : List Budget} (h : bs.Perm c.budgets) (p : Pod) :
    (c.withBudgets bs).Obstructed p ↔ c.Obstructed p := by
  rcases listBudgets_cases c p.ns with ⟨f, unlisted⟩ | listed
  · exact iff_of_true (.inl ⟨f, unlisted bs⟩) (.inl ⟨f, unlisted c.budgets⟩)
  · have those : c.listBudgets p.ns = .ok (c.budgets.filter (·.ns.equals p.ns)) := listed c.budgets
    simp only [Cluster.Obstructed, listed bs, those]
    simp [List.mem_filter, h.mem_iff]

theorem Posed.of_perm {mark : Document} {c : Cluster} {p : Pod} {bs : List Budget} (h : Posed mark c p)
    (hbs : bs.Perm c.budgets) : Posed mark (c.withBudgets bs) p where
  markKey := h.markKey
  ns := h.ns
  references := h.references
  owners := h.owners
  annotations := h.annotations
  budgets b hb := h.budgets b (hbs.subset hb)

/-! ## The decision -/

/-- An event about a pod with a name is recorded, one about a pod with an empty name is refused. -/
theorem record_ofPod (reason : Reason) (severity : String) (p : Pod) (message : String)
    (es : List Event) : Recorder.record (.make reason severity (.ofPod p) message) (.memory es) =
      if p.name.isTruthy then
        (.ok (), .memory (es ++ [.make reason severity (.ofPod p) message]))
      else (.error EventFlaw.namelessSubject.fault, .memory es) := by
  have known : (Reason.ofDocument? (.text reason.text)).isNone = false := by cases reason <;> decide
  rw [Recorder.record, Recorder.checked]
  cases hp : p.name.isTruthy <;>
    simp [Event.flaw?, Event.make, Document.isKey, known, Subject.ofPod, hp]

/-- The run of the gate in a scene. -/
def judgement (mark : Document) (p : Pod) (now : Instant) (s : Scene Cluster) :
    Run (Scene Cluster) Decision :=
  (evaluate mark p now).run Cluster.world s

/-- What a run of the gate comes to. The recorder gets to see no event about an admitted pod and one about
a rejected pod, and if it refuses that one the run ends on its fault. -/
structure Judged (mark : Document) (p : Pod) (now : Instant) (s : Scene Cluster)
    (run : Run (Scene Cluster) Decision) (d : Decision) : Prop where
  decided : Decided s.cluster mark p now d
  cluster : run.state.cluster = s.cluster
  lists : Lists run.exchanges ↔ ¬ s.cluster.Cooling mark p now
  admitted : d.admitted = true → run.outcome = .ok d ∧ run.state.recorder = s.recorder
  rejected : d.admitted = false → ∃ reason severity message,
    let answer := s.recorder.record (.make reason severity (.ofPod p) message)
    run.outcome = answer.1.map (fun _ => d) ∧ run.state.recorder = answer.2

/-- What is kept of a run by a recorder in memory: every decision about a pod with a name is answered, but
the rejection of a pod whose name is empty cannot be recorded. -/
structure Kept (p : Pod) (es : List Event) (run : Run (Scene Cluster) Decision) (d : Decision) :
    Prop where
  named : p.name.isTruthy = true → run.outcome = .ok d ∧ ∃ reports,
    run.state.recorder = .memory (es ++ reports) ∧ reports.length = (if d.admitted then 0 else 1) ∧
      ∀ e ∈ reports, e.subject = .ofPod p
  nameless : p.name.isTruthy = false → run.state.recorder = .memory es ∧
    run.outcome = if d.admitted then .ok d else .error EventFlaw.namelessSubject.fault

section

variable {mark : Document} {p : Pod} {s : Scene Cluster}

theorem exists_judged (h : Posed mark s.cluster p) (now : Instant) :
    ∃ d, Judged mark p now s (judgement mark p now s) d := by
  obtain ⟨told, cluster, lists⟩ := evaluate_ensures mark p now s
  obtain ⟨d, report, hd, decided, reports⟩ := finding_isOk h now
  obtain ⟨owner, hk, howner⟩ := h.known_isOk
  rw [← judgement, List.nil_append] at lists
  rw [← judgement, hd] at told
  have uncooled : (∃ owner, known (s.cluster.resolve p) = .ok owner ∧
      cooldownOf mark owner now = .ok none) ↔ ¬ s.cluster.Cooling mark p now := by
    rcases h.cooldownOf_cases now howner with ⟨o, t, -, hc, cooling⟩ | ⟨hc, free⟩
    · exact iff_of_false (by simp [hk, hc]) (not_not_intro cooling)
    · exact iff_of_true ⟨owner, hk, hc⟩ free
  refine ⟨d, decided, cluster, lists.trans uncooled, fun ha => ?_, fun ha => ?_⟩
  · cases reports with
    | admitted => exact Prod.mk.inj told
    | rejected hr => simp [hr] at ha
  · cases reports with
    | admitted hr => simp [hr] at ha
    | rejected _ reason severity message => exact ⟨reason, severity, message, Prod.mk.inj told⟩

variable {now : Instant} {run : Run (Scene Cluster) Decision} {d : Decision}

theorem Judged.admits_iff (h : Judged mark p now s run d) :
    (∃ d, run.outcome = .ok d ∧ d.admitted = true) ↔
      ¬ s.cluster.Cooling mark p now ∧ ¬ s.cluster.Obstructed p := by
  rw [← h.decided.admitted]
  cases ha : d.admitted with
  | true => exact iff_of_true ⟨d, (h.admitted ha).1, ha⟩ rfl
  | false =>
      obtain ⟨reason, severity, message, outcome, -⟩ := h.rejected ha
      refine iff_of_false ?_ (by simp)
      rintro ⟨d', hd', ha'⟩
      obtain ⟨-, -, rfl⟩ := Fault.map_eq_ok_iff.mp (outcome.symm.trans hd')
      rw [ha] at ha'
      cases ha'

theorem Judged.kept {es : List Event} (h : Judged mark p now s run d) (hs : s.recorder = .memory es) :
    Kept p es run d := by
  cases ha : d.admitted with
  | true =>
      obtain ⟨outcome, recorder⟩ := h.admitted ha
      rw [hs] at recorder
      refine ⟨fun _ => ⟨outcome, [], ?_, by simp [ha], by simp⟩, fun _ => ⟨recorder, ?_⟩⟩
      · rw [recorder, List.append_nil]
      · simp [ha, outcome]
  | false =>
      obtain ⟨reason, severity, message, outcome, recorder⟩ := h.rejected ha
      rw [hs, record_ofPod] at outcome recorder
      refine ⟨fun named => ?_, fun nameless => ?_⟩
      · rw [if_pos named] at outcome recorder
        exact ⟨outcome, [_], recorder, by simp [ha], by simp [Event.make]⟩
      · rw [if_neg (by simp [nameless])] at outcome recorder
        exact ⟨recorder, by simp [ha, outcome, Except.map]⟩

end

/-- The gate decides about every pod: it rejects one whose owner is in cooldown, without a look at the
budgets, and any other that the budgets are in the way of, and it admits the rest. Budgets with malformed
selectors may be put in or left out with nothing changed, and in whatever order the budgets stand, the
same pods are admitted. -/
theorem gate_decides {mark : Document} {p : Pod} {s : Scene Cluster} (h : Posed mark s.cluster p)
    (now : Instant) :
    (∃ d, Judged mark p now s (judgement mark p now s) d ∧
      ∀ es, s.recorder = .memory es → Kept p es (judgement mark p now s) d) ∧
      (∀ bs, bs.filter (·.isWellFormed) = s.cluster.budgets.filter (·.isWellFormed) →
        (judgement mark p now (s.withBudgets bs)).outcome = (judgement mark p now s).outcome ∧
          (judgement mark p now (s.withBudgets bs)).state.recorder =
            (judgement mark p now s).state.recorder) ∧
      ∀ bs, bs.Perm s.cluster.budgets →
        ((∃ d, (judgement mark p now (s.withBudgets bs)).outcome = .ok d ∧ d.admitted = true) ↔
          ∃ d, (judgement mark p now s).outcome = .ok d ∧ d.admitted = true) := by
  obtain ⟨d, judged⟩ := exists_judged h now
  refine ⟨⟨d, judged, fun es hs => judged.kept hs⟩, fun bs same => ?_, fun bs reordered => ?_⟩
  · have told := (evaluate_ensures mark p now s).1
    have told' := (evaluate_ensures mark p now (s.withBudgets bs)).1
    rw [Scene.withBudgets, finding_of_filter same, ← told] at told'
    exact Prod.mk.inj told'
  · obtain ⟨d', judged'⟩ := exists_judged (s := s.withBudgets bs) (h.of_perm reordered) now
    rw [judged.admits_iff, judged'.admits_iff, Scene.withBudgets, obstructed_of_perm reordered]
    exact Iff.rfl

namespace Sample

/-- Nothing may be evicted, and the budget in front has a malformed selector. -/
def budgets : List Budget :=
  [⟨"odd-pdb", "shop", some ⟨.ofPairs [("", "web")], []⟩, .int 0⟩,
    ⟨"web-pdb", "shop", some ⟨.empty, []⟩, .int 0⟩]

/-- The budgets, and the owner of the pods in its cooldown. -/
def guarded : Cluster := { Cycle.Sample.cluster with owners := .ofList [Cycle.Sample.resting], budgets }

def guardedScene : Scene Cluster := ⟨guarded, .memory [], .ofList [], none⟩

theorem guarded_posed (name node : String) :
    Posed Cycle.Sample.config.cooldownMark guarded (Cycle.Sample.pod name node) where
  markKey := rfl
  ns := rfl
  references r hr := by
    cases List.mem_singleton.mp hr
    rfl
  owners o ho r hr := by
    cases List.mem_singleton.mp ho
    cases hr
  annotations o ho d hd := by
    cases List.mem_singleton.mp ho
    have said : Cycle.Sample.resting.annotations.get? Cycle.Sample.config.cooldownMark =
        some (.text (Timestamp.write Cycle.Sample.later)) := by decide +kernel
    obtain rfl := Option.some.inj (said.symm.trans hd)
    have legible : (Timestamp.read (Timestamp.write Cycle.Sample.later)).isOk = true := by decide +kernel
    refine ⟨_, rfl, fun escapes => ?_⟩
    rw [Timestamp.read_eq_error_iff.mpr ⟨rfl, escapes⟩] at legible
    cases legible
  budgets b hb s hs := by
    simp only [guarded, budgets, List.mem_cons, List.not_mem_nil, or_false] at hb
    rcases hb with rfl | rfl
    · cases hs
      exact ⟨by decide, by decide⟩
    · cases hs
      exact ⟨by decide, by decide⟩

end Sample

open Sample in
open Cycle.Sample (config pod noon later resting) in
/-- The owner holds the pod until its deadline, and the used up budget after that, with the malformed one or
without it. -/
theorem gate_decides_sample :
    Posed config.cooldownMark guarded (pod "web-1" "node-a") ∧
      ¬ Lists (judgement config.cooldownMark (pod "web-1" "node-a") noon guardedScene).exchanges ∧
      (judgement config.cooldownMark (pod "web-1" "node-a") later
        (guardedScene.withBudgets budgets.tail)).outcome =
          .ok ⟨some resting, some (.budget,
            "eviction would violate PodDisruptionBudget web-pdb (disruptionsAllowed: 0)")⟩ := by
  have posed := guarded_posed "web-1" "node-a"
  obtain ⟨⟨d, early, -⟩, -⟩ := gate_decides (s := guardedScene) posed noon
  obtain ⟨-, unchanged, -⟩ := gate_decides (s := guardedScene) posed later
  have cooling : guarded.Cooling config.cooldownMark (pod "web-1" "node-a") noon :=
    ⟨resting, later, by decide +kernel, by decide +kernel, by decide⟩
  refine ⟨posed, mt early.lists.mp (not_not_intro cooling), ?_⟩
  rw [(unchanged budgets.tail (by decide +kernel)).1]
  decide +kernel

open Sample in
open Cycle.Sample (config pod later resting) in
/-- A used up budget is in the way of a pod with an empty name, but the recorder refuses the event and no
decision is answered. -/
theorem nameless_unanswered :
    Posed config.cooldownMark guarded (pod "" "node-a") ∧
      ¬ guarded.Cooling config.cooldownMark (pod "" "node-a") later ∧
      guarded.Obstructed (pod "" "node-a") ∧
      (judgement config.cooldownMark (pod "" "node-a") later guardedScene).outcome =
        .error EventFlaw.namelessSubject.fault := by
  have posed := guarded_posed "" "node-a"
  have resolved : guarded.resolve (pod "" "node-a") = .ok (some resting) := by decide +kernel
  have rested : Cooldown.deadline config.cooldownMark resting = .ok (some later) := by decide +kernel
  have past : ¬ guarded.Cooling config.cooldownMark (pod "" "node-a") later := by
    rintro ⟨o, t, hr, hd, ahead⟩
    obtain rfl : resting = o := by simpa [resolved] using hr
    obtain rfl : later = t := by simpa [rested] using hd
    exact absurd ahead (by decide)
  have obstructed : guarded.Obstructed (pod "" "node-a") :=
    .inr ⟨budgets, by decide +kernel, budgets[1], List.mem_of_getElem rfl, by decide +kernel, rfl⟩
  refine ⟨posed, past, obstructed, ?_⟩
  obtain ⟨d, judged⟩ := exists_judged (s := guardedScene) posed later
  have rejected : d.admitted = false := by
    rw [Bool.eq_false_iff]
    exact mt judged.decided.admitted.mp fun free => free.2 obstructed
  rw [((judged.kept rfl).nameless rfl).2, rejected]
  rfl

end Admission

end NodeRelief
