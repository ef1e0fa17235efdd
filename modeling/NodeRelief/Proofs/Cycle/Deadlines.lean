import NodeRelief.Proofs.Cycle.Spacing

/-! # How deadlines advance

However the clock runs and whatever was written to an owner before, the deadlines that cycles write to it
only move forward, and nothing else that a cycle does changes an owner. -/

namespace NodeRelief.Cycle

variable {c : Config} {h : List (Exchange (Scene Cluster))} {s s' : Scene Cluster}

/-! ## One request -/

/-- A deadline was written to the stored owner in place of the one before. -/
structure Renewed (c : Config) (o : Owner) (t : Instant) (cl cl' : Cluster) : Prop where
  stored : cl.owner? o.id = some o
  later : ∃ previous, Cooldown.deadline c.cooldownMark o = .ok previous ∧ ∀ d ∈ previous, d < t
  whole : t.floorSecond = t
  written : ∃ o', cl'.owner? o.id = some o' ∧
    o'.annotations.get? c.cooldownMark = some (.text (Timestamp.write t))
  read : Timestamp.read (Timestamp.write t) = .ok (some t)
  others : ∀ id, o.identity ≠ id.canonical → cl'.owner? id = cl.owner? id

/-- Recording the cooldown of an owner begins with the request for its patch, and returns the deadline if
the event about it is taken. -/
def Returns (c : Config) (o : Owner) (now t : Instant) (e : Exchange (Scene Cluster)) : Prop :=
  ∃ s r, ((Cooldown.record c.cooldownMark c.recheckInterval o now).run Cluster.world e.before).exchanges =
      [e, ⟨s, .record (.cooldownSet o (Timestamp.write t)), r⟩] ∧
    ((Cooldown.record c.cooldownMark c.recheckInterval o now).run Cluster.world e.before).outcome =
      r.map fun _ => (some t, o.annotate (Cooldown.entry c.cooldownMark t))

/-- What an exchange does to the owners of the cluster: a patch that is accepted renews a deadline, by the
last reading of the clock, one that is refused leaves the cluster as it is, and nothing else changes them. -/
inductive Advances (c : Config) (h : List (Exchange (Scene Cluster))) :
    Exchange (Scene Cluster) → Prop where
  | renewed {s o now t} (hnow : lastReading? h = some now)
      (renewed : Renewed c o t s.cluster
        (Cluster.answer (.annotateOwner o (Cooldown.entry c.cooldownMark t)) s.cluster).2)
      (returned : Returns c o now t ⟨s, .call (.annotateOwner o (Cooldown.entry c.cooldownMark t)), .ok ()⟩) :
      Advances c h ⟨s, .call (.annotateOwner o (Cooldown.entry c.cooldownMark t)), .ok ()⟩
  | refused {s o entries f}
      (same : (Cluster.answer (.annotateOwner o entries) s.cluster).2 = s.cluster) :
      Advances c h ⟨s, .call (.annotateOwner o entries), .error f⟩
  | untouched {s q r} (hq : ∀ o entries, q ≠ .call (.annotateOwner o entries))
      (same : (Cluster.world.reply q s).2.cluster.owners = s.cluster.owners) :
      Advances c h ⟨s, q, r⟩

/-- The deadline that was written is the one that recording the cooldown returns. -/
theorem returns_of_reply {o : Owner} {now t : Instant} {previous : Option Instant}
    (hd : Cooldown.deadline c.cooldownMark o = .ok previous)
    (hn : Cooldown.next? (.utc now) c.recheckInterval previous = some t)
    (hs : Cluster.world.reply (.call (.annotateOwner o (Cooldown.entry c.cooldownMark t))) s = (.ok (), s')) :
    Returns c o now t ⟨s, .call (.annotateOwner o (Cooldown.entry c.cooldownMark t)), .ok ()⟩ := by
  have records := Cooldown.records_of_course
    (.run Cluster.world (Cooldown.record c.cooldownMark c.recheckInterval o now) s)
  have leads := World.Leads.run Cluster.world (Cooldown.record c.cooldownMark c.recheckInterval o now) s
  rw [Returns]
  generalize (Cooldown.record c.cooldownMark c.recheckInterval o now).run Cluster.world s = run
    at records leads ⊢
  obtain ⟨outcome, s₁, l⟩ := run
  cases records with
  | unreadable hd' => cases hd.symm.trans hd'
  | endless hd' hn' =>
      cases hd.symm.trans hd'
      cases hn.symm.trans hn'
  | @written previous' t' hd' hn' s₀ s₂ r v hv =>
      cases hd.symm.trans hd'
      cases hn.symm.trans hn'
      obtain ⟨rfl, -⟩ := World.Leads.cons_iff.mp leads
      exact ⟨s₂, r, rfl, hv.symm⟩
  | @refused previous' t' hd' hn' s₀ message s₂ r v hv =>
      cases hd.symm.trans hd'
      cases hn.symm.trans hn'
      obtain ⟨rfl, s₁, refused, -⟩ := World.Leads.cons_iff.mp leads
      cases congrArg Prod.fst (hs.symm.trans refused)
  | @broken previous' t' f hd' hn' hf s₀ =>
      cases hd.symm.trans hd'
      cases hn.symm.trans hn'
      obtain ⟨rfl, s₁, refused, -⟩ := World.Leads.cons_iff.mp leads
      cases congrArg Prod.fst (hs.symm.trans refused)

/-- A patch that has its reasons renews the deadline or is refused. -/
theorem Renews.advances {o : Owner} {entries : Holding} {r : Except Fault Unit}
    (renews : Renews c s.cluster o h entries)
    (ahead : ∀ t ∈ h.filterMap Exchange.reading?,
      Instant.yearThousand.micros ≤ t.micros + 2 * c.recheckInterval.micros)
    (hs : Cluster.world.reply (.call (.annotateOwner o entries)) s = (r, s')) :
    Advances c h ⟨s, .call (.annotateOwner o entries), r⟩ := by
  obtain @⟨l, s₀, p, n, s₁, s₂, now, previous, t, -, stored, hd, hn⟩ := renews
  have answered := Cluster.hosts.answer_of_reply hs
  rcases Cluster.patchOwner_cases s.cluster o (Cooldown.entry c.cooldownMark t) with
    ⟨f, refused⟩ | ⟨stored', hstored, written⟩
  · obtain ⟨rfl, -⟩ := Prod.mk.inj (answered.symm.trans refused)
    exact .refused (congrArg Prod.snd refused)
  · obtain ⟨rfl, -⟩ := Prod.mk.inj (answered.symm.trans written)
    obtain rfl := Option.some.inj (stored.symm.trans hstored)
    obtain ⟨-, later, whole⟩ := Cooldown.next?_spec hn
    have modern : .yearThousand ≤ t :=
      Cooldown.yearThousand_le_of_ahead hn (ahead now (by simp [Exchange.reading?]))
    have patched : (Cluster.answer (.annotateOwner o (Cooldown.entry c.cooldownMark t)) s.cluster).2 =
        s.cluster.putOwner (o.annotate (Cooldown.entry c.cooldownMark t)) := congrArg Prod.snd written
    have last : lastReading? (l ++ [⟨s₀, .call (.evict p c.gracePeriod), .ok ()⟩,
        ⟨s₁, .record (.podEvicted p n), .ok ()⟩, ⟨s₂, .clock, .ok now⟩]) = some now := by
      rw [List.append_cons, List.append_cons]
      exact lastReading?_inspections (k := []) (by simp)
    refine .renewed last ?_ (returns_of_reply hd hn hs)
    rw [patched]
    refine ⟨stored, ⟨previous, hd, later⟩, whole, ⟨o.annotate (Cooldown.entry c.cooldownMark t), ?_, ?_⟩,
      ?_, fun id other => ?_⟩
    · rw [Cluster.owner?_putOwner]
      exact if_pos rfl
    · simp [Owner.annotate, Cooldown.merge_entry]
    · rw [Timestamp.read_write modern, whole]
    · rw [Cluster.owner?_putOwner]
      exact if_neg other

theorem Reasoned.advances {profiles : ProfileStore} {e : Exchange (Scene Cluster)}
    (reasoned : Reasoned c profiles h e)
    (ahead : ∀ t ∈ h.filterMap Exchange.reading?,
      Instant.yearThousand.micros ≤ t.micros + 2 * c.recheckInterval.micros)
    (answered : e.reply = (Cluster.world.reply e.query e.before).1) : Advances c h e := by
  obtain ⟨s, q, r⟩ := e
  have hs : Cluster.world.reply q s = (r, (Cluster.world.reply q s).2) := Prod.ext answered.symm rfl
  cases q with
  | call call =>
      cases call with
      | annotateOwner o entries => exact Renews.advances reasoned ahead hs
      | evict p g =>
        refine .untouched (by simp) ?_
        rw [← Cluster.evict_owners s.cluster p]
        rfl
      | _ => exact .untouched (by simp) rfl
  | _ => exact .untouched (by simp) (by rw [Cluster.hosts.of_reply_isRead rfl hs])

/-! ## One cycle after the other -/

/-- Every change of a run is asked for with reason. -/
theorem reasoned_cycles (turns : List Turn) (h : List (Exchange (Scene Cluster))) (s : Scene Cluster) :
    Throughout (fun h e => ∃ profiles, Reasoned c profiles h e) h (cycles c turns s) := by
  induction turns generalizing h s with
  | nil => exact .nil
  | cons turn turns ih =>
      refine Throughout.append_iff.mpr ⟨?_, ih _ _⟩
      exact (reasoned_reconcile c turn.profiles h (turn.outside s)).mono fun h e he => ⟨_, he⟩

theorem reply_eq_of_mem_cycles {turns : List Turn} {e : Exchange (Scene Cluster)}
    (he : e ∈ cycles c turns s) : e.reply = (Cluster.world.reply e.query e.before).1 := by
  induction turns generalizing s with
  | nil => cases he
  | cons turn turns ih =>
      rcases List.mem_append.mp he with he | he
      · exact (World.Leads.run Cluster.world (reconcile c turn.profiles) (turn.outside s)).reply_eq he
      · exact ih he

/-- Along cycles that follow each other, whatever happens in between and whatever the clock shows, every
accepted patch of an owner puts a later deadline in the place of the stored one, and no other exchange
changes an owner. -/
theorem deadlines_advance (c : Config) (turns : List Turn) (s : Scene Cluster)
    {before after : List (Exchange (Scene Cluster))} {e : Exchange (Scene Cluster)}
    (ahead : ∀ t ∈ (cycles c turns s).filterMap Exchange.reading?,
      Instant.yearThousand.micros ≤ t.micros + 2 * c.recheckInterval.micros)
    (split : cycles c turns s = before ++ e :: after) : Advances c before e := by
  have reasoned : Throughout (fun h e => ∃ profiles, Reasoned c profiles h e) []
      (before ++ e :: after) := split ▸ reasoned_cycles turns [] s
  obtain ⟨profiles, reasoned⟩ := reasoned.of_append_cons
  have made : e ∈ cycles c turns s := by simp [split]
  refine reasoned.advances (fun t ht => ahead t ?_) (reply_eq_of_mem_cycles made)
  rw [split, List.filterMap_append]
  exact List.mem_append_left _ ht

/-! ## Runs -/

namespace Sample

/-- The owner after a deadline half a second before four minutes past noon, shown two hours ahead of UTC. -/
def pastOwner : Owner :=
  { owner with annotations := .ofPairs [(cooldownMarkName, .text "2024-05-01T14:03:59.5+02:00")] }

/-- The clock goes back from four minutes past noon to ten minutes before it. -/
def backwardScene : Scene Cluster :=
  ⟨{ cluster with owners := .ofList [pastOwner] }, .memory [],
    .ofList [1714565040000000, 1714564200000000], none⟩

/-- The patch of an owner that a query asks for. -/
def patch? : Query → Option (Owner × Mapping)
  | .call (.annotateOwner o (.mapping entries)) => some (o, entries)
  | _ => none

end Sample

open Sample in
/-- Though the clock goes back, the new deadline is past the one before. -/
theorem deadlines_advance_sample :
    ∃ before e after, cycles config turns backwardScene = before ++ e :: after ∧
      patch? e.query = some (pastOwner, Cooldown.entry config.cooldownMark later) ∧
      Advances config before e := by
  have ahead : ∀ t ∈ (cycles config turns backwardScene).filterMap Exchange.reading?,
      Instant.yearThousand.micros ≤ t.micros + 2 * config.recheckInterval.micros := by decide +kernel
  have patch : (cycles config turns backwardScene)[13]?.any (fun e =>
      patch? e.query = some (pastOwner, Cooldown.entry config.cooldownMark later)) = true := by
    decide +kernel
  obtain ⟨e, patched, split⟩ := parted_at 13 patch
  exact ⟨_, e, _, split, patched, deadlines_advance _ _ _ ahead split⟩

end NodeRelief.Cycle
