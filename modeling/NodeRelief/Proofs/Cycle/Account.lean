import NodeRelief.Proofs.Cycle.Outline

/-! # What a cycle accounts for

The result of a cycle agrees with its exchanges, whatever the world: the evicted pods are those whose
evictions were accepted, a rate limit is the answer to the last eviction, and an error is a list that
could not be had before anything was changed. A setback costs no more than the candidate it is about. -/

namespace NodeRelief.Cycle

variable {σ : Type}

/-! ## The books of a cycle -/

/-- The exchanges of a cycle that goes on, having evicted the pods of these keys. -/
structure Account (evicted : List String) (l : List (Exchange σ)) : Prop where
  evicted : accepted l = evicted
  unlimited : ∀ x ∈ evictions l, isRateLimited x.2 = false
  listed : ∀ e ∈ l, e.isUnlisted = false
  checked : Throughout Checked [] l

/-- The exchanges of a cycle that a rate limit ended, having evicted the pods of these keys. -/
structure Limited (evicted : List String) (l : List (Exchange σ)) : Prop where
  evicted : accepted l = evicted
  limited : ∃ init x, evictions l = init ++ [x] ∧ isRateLimited x.2 = true ∧
    ∀ y ∈ init, isRateLimited y.2 = false
  listed : ∀ e ∈ l, e.isUnlisted = false
  checked : Throughout Checked [] l

/-- What a result says of the exchanges that led to it. -/
structure Balances (r : CycleResult) (l : List (Exchange σ)) : Prop where
  evicted : r.evicted = accepted l
  rateLimited : r.rateLimited = true ↔ ∃ x ∈ evictions l, isRateLimited x.2 = true
  /-- A rate limit is the answer to the last eviction. -/
  last : ∀ a x b, evictions l = a ++ x :: b → isRateLimited x.2 = true → b = []
  error : r.error.isSome = true ↔ ∃ e ∈ l, e.isUnlisted = true
  /-- After an error nothing was changed. -/
  quiet : r.error.isSome = true → ∀ e ∈ l, e.query.isRead = true
  checked : Throughout Checked [] l

variable {evicted : List String} {l k : List (Exchange σ)} {r : CycleResult}

theorem not_unlisted (h : ∀ e ∈ l, e.isUnlisted = false) : ¬ ∃ e ∈ l, e.isUnlisted = true := by
  rintro ⟨e, he, unlisted⟩
  rw [h e he] at unlisted
  cases unlisted

theorem Account.balances (h : Account evicted l) (he : r.evicted = evicted)
    (hr : r.rateLimited = false) (hf : r.error = none) : Balances r l := by
  have unlimited : ¬ ∃ x ∈ evictions l, isRateLimited x.2 = true := by
    rintro ⟨x, hx, limited⟩
    rw [h.unlimited x hx] at limited
    cases limited
  refine ⟨he.trans h.evicted.symm, ?_, ?_, ?_, by simp [hf], h.checked⟩
  · simp [hr, unlimited]
  · intro a x b hx limited
    exact absurd ⟨x, by simp [hx], limited⟩ unlimited
  · simp [hf, not_unlisted h.listed]

theorem Limited.balances (h : Limited evicted l) (he : r.evicted = evicted)
    (hr : r.rateLimited = true) (hf : r.error = none) : Balances r l := by
  obtain ⟨init, x, hx, limited, before⟩ := h.limited
  refine ⟨he.trans h.evicted.symm, ?_, ?_, by simp [hf, not_unlisted h.listed], by simp [hf],
    h.checked⟩
  · simp only [hr, true_iff]
    exact ⟨x, by simp [hx], limited⟩
  · intro a y b hy limited'
    rcases List.eq_nil_or_concat' b with rfl | ⟨b, z, rfl⟩
    · rfl
    · have same : init ++ [x] = (a ++ y :: b) ++ [z] := by rw [← hx, hy]; simp
      have front := (List.append_inj' same rfl).1
      have earlier := before y (by simp [front])
      rw [limited'] at earlier
      cases earlier

/-! ## One visit -/

variable {c : Config} {p : Pod} {h : List (Exchange σ)}

theorem checked_of_evictions (hl : evictions l = []) : Throughout Checked h l := by
  refine .of_forall fun e he k p g hq => ?_
  have none := List.filterMap_eq_nil_iff.mp hl e he
  obtain ⟨s, q, a⟩ := e
  obtain rfl : q = .call (.evict p g) := hq
  cases none

theorem Checked.append {e : Exchange σ} (he : Checked k e) : Checked (h ++ k) e := by
  intro p g hq
  obtain ⟨k', s, bs, rfl⟩ := he p g hq
  exact ⟨h ++ k', s, bs, (List.append_assoc ..).symm⟩

/-- Exchanges without a request for an eviction are nothing to account for. -/
theorem Account.append (h : Account evicted l) (hk : evictions k = [])
    (listed : ∀ e ∈ k, e.isUnlisted = false) : Account evicted (l ++ k) where
  evicted := by rw [accepted, evictions_append, hk, List.append_nil]; exact h.evicted
  unlimited := by rw [evictions_append, hk, List.append_nil]; exact h.unlimited
  listed := fun e he => (List.mem_append.mp he).elim (h.listed e) (listed e)
  checked := Throughout.append_iff.mpr ⟨h.checked, checked_of_evictions hk⟩

theorem Account.plain (h : Account evicted l) (hk : Plain k) : Account evicted (l ++ k) :=
  h.append hk.evictions fun e he => e.isUnlisted_of_isPlain (hk e he)

theorem Account.of_plain (hl : Plain l) : Account [] l := by
  have nothing : Account [] ([] : List (Exchange σ)) := ⟨rfl, by simp [evictions], by simp, trivial⟩
  exact nothing.plain hl

theorem Limited.plain (h : Limited evicted l) (hk : Plain k) : Limited evicted (l ++ k) where
  evicted := by rw [accepted_append, hk.accepted, List.append_nil]; exact h.evicted
  limited := by rw [evictions_append, hk.evictions, List.append_nil]; exact h.limited
  listed := fun e he =>
    (List.mem_append.mp he).elim (h.listed e) fun he => e.isUnlisted_of_isPlain (hk e he)
  checked := Throughout.append_iff.mpr ⟨h.checked, checked_of_evictions hk.evictions⟩

section Request

variable {s : σ} {g : Document} {a : Except Fault Unit}

theorem listed_request (h : ∀ e ∈ l, e.isUnlisted = false) :
    ∀ e ∈ l ++ [⟨s, .call (.evict p g), a⟩], e.isUnlisted = false := by
  intro e he
  rcases List.mem_append.mp he with he | he
  · exact h e he
  · rw [List.mem_singleton.mp he]
    rfl

theorem accepted_request :
    accepted (l ++ [⟨s, .call (.evict p g), a⟩]) = accepted l ++ (acceptedKey? (p, a)).toList := by
  rw [accepted_append]
  cases a <;> rfl

theorem Account.request (h : Account evicted l) (hb : Checked l ⟨s, .call (.evict p g), a⟩)
    (ha : isRateLimited a = false) :
    Account (evicted ++ (acceptedKey? (p, a)).toList) (l ++ [⟨s, .call (.evict p g), a⟩]) where
  evicted := by rw [accepted_request, h.evicted]
  unlimited := by
    rw [evictions_append]
    intro x hx
    rcases List.mem_append.mp hx with hx | hx
    · exact h.unlimited x hx
    · rw [List.mem_singleton.mp hx]
      exact ha
  listed := listed_request h.listed
  checked := Throughout.append_iff.mpr ⟨h.checked, hb, trivial⟩

theorem Account.limited (h : Account evicted l) (hb : Checked l ⟨s, .call (.evict p g), a⟩)
    (ha : isRateLimited a = true) : Limited evicted (l ++ [⟨s, .call (.evict p g), a⟩]) where
  evicted := by
    have refused : acceptedKey? (p, a) = none := by
      cases a with
      | ok u => cases ha
      | error f => rfl
    rw [accepted_request, refused, h.evicted]
    exact List.append_nil evicted
  limited := ⟨evictions l, (p, a), evictions_append .., ha, h.unlimited⟩
  listed := listed_request h.listed
  checked := Throughout.append_iff.mpr ⟨h.checked, hb, trivial⟩

end Request

theorem Account.setback {e : Exchange σ} {event : Event} (h : Account evicted l)
    (he : Setback c p e event) (hb : Checked l e) : Account evicted (l ++ [e]) := by
  cases he with
  | unchecked s message => exact h.append rfl (by simp [Exchange.isUnlisted])
  | @unevicted a message ha s =>
      obtain ⟨refused, unlimited⟩ := Eviction.of_outcome?_failed (p := p) ha
      have asked := h.request hb unlimited
      rw [refused] at asked
      rwa [← List.append_nil evicted]

theorem plain_record (s : σ) (event : Event) : Plain [⟨s, .record event, .ok ()⟩] := by
  simp [Plain, Exchange.isPlain]

/-- A visit adds to the books what its verdict says. -/
theorem Account.visit {v : Verdict} (h : Account evicted l) (hv : Outline c p k v) :
    match v with
    | .passed => Account evicted (l ++ k)
    | .cancelled => Account evicted (l ++ k)
    | .evicted => Account (evicted ++ [p.key]) (l ++ k)
    | .rateLimited => Limited evicted (l ++ k) := by
  cases hv with
  | plain hk hv =>
      rcases hv with rfl | rfl
      · exact h.plain hk
      · exact h.plain hk
  | @setback k e event hk he hb s =>
      have given := ((h.plain hk).setback he hb.append).plain (plain_record s event)
      simpa using given
  | limited hk hb s' event =>
      have asked := ((h.plain hk).limited hb.append rfl).plain (plain_record s' event)
      simpa using asked
  | evicted hk hb hk' =>
      have asked := ((h.plain hk).request hb.append rfl).plain hk'
      simpa [acceptedKey?] using asked

end NodeRelief.Cycle
