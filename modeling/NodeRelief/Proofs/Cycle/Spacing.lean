import NodeRelief.Proofs.Cycle.Justification

/-! # The distance between evictions of one owner

Whatever a run does in between, the deadline of an owner is never before one that the run has written to
it. So the gate holds later evictions of the owner back until the cooldown of an earlier one is over. -/

namespace NodeRelief

namespace Cluster

/-! ## Stored deadlines -/

/-- The stored owner has a deadline that is not before the given one. -/
def Rests (c : Cluster) (mark : Document) (id : OwnerId) (t : Instant) : Prop :=
  ∃ o d, c.owner? id = some o ∧ Cooldown.deadline mark o = .ok (some d) ∧ t ≤ d

theorem owner?_putOwner (c : Cluster) (o : Owner) (id : OwnerId) :
    (c.putOwner o).owner? id = if o.identity = id.canonical then some o else c.owner? id :=
  Register.find?_put c.owners o id.canonical

/-- A patch is refused, or it adds the entries to the stored owner. -/
theorem patchOwner_cases (c : Cluster) (o : Owner) (entries : Mapping) :
    (∃ f, c.patchOwner o entries = (.error f, c)) ∨
      ∃ stored, c.owner? o.id = some stored ∧
        c.patchOwner o entries = (.ok (), c.putOwner (stored.annotate entries)) := by
  simp only [patchOwner]
  cases h : c.patchTarget o with
  | error f => exact .inl ⟨f, rfl⟩
  | ok stored =>
      refine .inr ⟨stored, ?_, rfl⟩
      obtain ⟨failure, -, h⟩ := Fault.bind_eq_ok_iff.mp h
      split at h <;> simp_all

end Cluster

namespace Cycle

/-! ## Deadlines along a run -/

/-- No deadline that was written to the owner is past the stored one. -/
def Kept (mark : Document) (id : OwnerId) (h : List (Exchange (Scene Cluster))) (cl : Cluster) :
    Prop :=
  ∀ s o (m : Mapping) d, ⟨s, .call (.annotateOwner o m), .ok ()⟩ ∈ h → o.identity = id.canonical →
    Cooldown.deadline mark (o.annotate m) = .ok (some d) → cl.Rests mark id d

/-- The clock showed no time before the year 1000. -/
def Modern (l : List (Exchange (Scene Cluster))) : Prop :=
  ∀ t ∈ l.filterMap Exchange.reading?, .yearThousand ≤ t

section Run

variable {c : Config} {profiles : ProfileStore} {id : OwnerId} {h l : List (Exchange (Scene Cluster))}
  {s s' : Scene Cluster} {cl : Cluster}

theorem Modern.of_append (modern : Modern (h ++ l)) : Modern h := by
  intro t ht
  refine modern t ?_
  rw [List.filterMap_append]
  exact List.mem_append_left _ ht

theorem Modern.le_next {now t : Instant} {previous : Option Instant} (modern : Modern l)
    (hnow : ⟨s, .clock, .ok now⟩ ∈ l)
    (hn : Cooldown.next? (.utc now) c.recheckInterval previous = some t) : .yearThousand ≤ t :=
  Cooldown.yearThousand_le_next? hn (modern now (List.mem_filterMap.mpr ⟨_, hnow, rfl⟩))
    c.recheckInterval_pos

theorem Kept.of_owners {cl' : Cluster} (kept : Kept c.cooldownMark id h cl)
    (same : cl'.owners = cl.owners) : Kept c.cooldownMark id h cl' := by
  intro s o m d he ho hd
  have rests := kept s o m d he ho hd
  simp only [Cluster.Rests, Cluster.owner?] at rests ⊢
  rwa [same]

/-- A patch that has its reasons puts the deadline off. -/
theorem Kept.patch {o : Owner} {entries : Holding} {r : Except Fault Unit} {cl' : Cluster}
    (kept : Kept c.cooldownMark id h cl) (hr : Renews c cl o h entries) (modern : Modern h)
    (hp : cl.patchOwner o entries = (r, cl')) :
    Kept c.cooldownMark id (h ++ [⟨s, .call (.annotateOwner o entries), r⟩]) cl' := by
  obtain @⟨l, s₀, p, n, s₁, s₂, now, previous, t, -, stored, hd, hn⟩ := hr
  rcases Cluster.patchOwner_cases cl o (Cooldown.entry c.cooldownMark t) with
    ⟨f, refused⟩ | ⟨stored', hstored, written⟩
  · obtain ⟨rfl, rfl⟩ := Prod.mk.inj (hp.symm.trans refused)
    intro s' o' m d he ho hd
    rcases List.mem_append.mp he with he | he
    · exact kept s' o' m d he ho hd
    · cases List.mem_singleton.mp he
  · obtain ⟨rfl, rfl⟩ := Prod.mk.inj (hp.symm.trans written)
    obtain rfl := Option.some.inj (stored.symm.trans hstored)
    have hkey := (Cooldown.deadline_eq_ok_iff.mp hd).1
    obtain ⟨-, later, whole⟩ := Cooldown.next?_spec hn
    have renewed := Cooldown.deadline_annotate (o := o) hkey (modern.le_next (s := s₂) (by simp) hn) whole
    have rests (own : o.identity = id.canonical) {d : Instant} (hle : d ≤ t) :
        (cl.putOwner (o.annotate (Cooldown.entry c.cooldownMark t))).Rests c.cooldownMark id d := by
      refine ⟨_, t, ?_, renewed, hle⟩
      rw [Cluster.owner?_putOwner]
      exact if_pos own
    intro s' o' m d he ho hd'
    rcases List.mem_append.mp he with he | he
    · obtain ⟨x, d', hx, hxd, hle⟩ := kept s' o' m d he ho hd'
      by_cases own : o.identity = id.canonical
      · have same : cl.owner? o.id = cl.owner? id := congrArg cl.owners.find? own
        obtain rfl := Option.some.inj (stored.symm.trans (same.trans hx))
        obtain rfl := Except.ok.inj (hd.symm.trans hxd)
        exact rests own (Int.le_trans hle (Int.le_of_lt (later d' rfl)))
      · refine ⟨x, d', ?_, hxd, hle⟩
        rw [Cluster.owner?_putOwner, ← hx]
        exact if_neg own
    · cases List.mem_singleton.mp he
      rw [renewed] at hd'
      cases hd'
      exact rests ho (Int.le_refl _)

theorem Kept.snoc {e : Exchange (Scene Cluster)} (kept : Kept c.cooldownMark id h cl)
    (he : ∀ o entries, e.query ≠ .call (.annotateOwner o entries)) :
    Kept c.cooldownMark id (h ++ [e]) cl := by
  intro s o m d hmem ho hd
  rcases List.mem_append.mp hmem with hmem | hmem
  · exact kept s o m d hmem ho hd
  · rw [← List.mem_singleton.mp hmem] at he
    exact absurd rfl (he o m)

/-- One exchange keeps the deadlines, whatever it is about. -/
theorem Kept.step {q : Query} {r : q.Reply} (kept : Kept c.cooldownMark id h s.cluster)
    (hr : Reasoned c profiles h ⟨s, q, r⟩) (modern : Modern h)
    (hs : Cluster.world.reply q s = (r, s')) :
    Kept c.cooldownMark id (h ++ [⟨s, q, r⟩]) s'.cluster := by
  cases q with
  | call call =>
      cases call with
      | annotateOwner o entries => exact kept.patch hr modern (Cluster.hosts.answer_of_reply hs)
      | evict p g =>
        refine (kept.of_owners ?_).snoc (by simp)
        rw [← Cluster.evict_owners s.cluster p]
        exact congrArg Cluster.owners (congrArg Prod.snd (Cluster.hosts.answer_of_reply hs)).symm
      | _ =>
        rw [Cluster.hosts.of_reply_isRead rfl hs]
        exact kept.snoc (by simp)
  | _ =>
      rw [Cluster.hosts.of_reply_isRead rfl hs]
      exact kept.snoc (by simp)

/-- The deadlines are kept all along a run, and at its end. -/
theorem kept_of_leads (kept : Kept c.cooldownMark id h s.cluster)
    (reasoned : Throughout (Reasoned c profiles) h l) (modern : Modern (h ++ l))
    (hl : Cluster.world.Leads s l s') :
    Throughout (fun h e => Kept c.cooldownMark id h e.before.cluster) h l ∧
      Kept c.cooldownMark id (h ++ l) s'.cluster := by
  induction l generalizing h s with
  | nil =>
      rw [← hl, List.append_nil]
      exact ⟨.nil, kept⟩
  | cons e l ih =>
      obtain ⟨s₀, q, r⟩ := e
      obtain ⟨rfl, s₁, hr, hl⟩ := World.Leads.cons_iff.mp hl
      obtain ⟨he, reasoned⟩ := reasoned
      have before := modern.of_append
      rw [List.append_cons] at modern ⊢
      obtain ⟨past, last⟩ := ih (kept.step he before hr) reasoned modern hl
      exact ⟨⟨kept, past⟩, last⟩

/-! ## One cycle after the other -/

/-- What happens to the scene before a cycle, and the profiles known at the cycle's start. -/
structure Turn where
  outside : Scene Cluster → Scene Cluster
  profiles : ProfileStore

/-- The scene at the start of a cycle keeps the annotation of an owner that was there before. -/
def Turn.Spares (turn : Turn) (mark : Document) (id : OwnerId) : Prop :=
  ∀ s o, s.cluster.owner? id = some o → ∃ o', (turn.outside s).cluster.owner? id = some o' ∧
    o'.annotations.get? mark = o.annotations.get? mark

/-- The exchanges of cycles that follow each other. A cycle that ended on a fault is followed too. -/
def cycles (c : Config) : List Turn → Scene Cluster → List (Exchange (Scene Cluster))
  | [], _ => []
  | turn :: rest, s =>
    let run := (reconcile c turn.profiles).run Cluster.world (turn.outside s)
    run.exchanges ++ cycles c rest run.state

theorem Kept.outside {turn : Turn} (kept : Kept c.cooldownMark id h s.cluster)
    (spares : turn.Spares c.cooldownMark id) :
    Kept c.cooldownMark id h (turn.outside s).cluster := by
  intro s' o m d he ho hd
  obtain ⟨x, d', hx, hxd, hle⟩ := kept s' o m d he ho hd
  obtain ⟨x', hx', same⟩ := spares s x hx
  refine ⟨x', d', hx', ?_, hle⟩
  simp only [Cooldown.deadline] at hxd ⊢
  rwa [same]

/-- Every change of a run is asked for with reason, and after deadlines that are kept. -/
theorem kept_cycles {turns : List Turn} (spares : ∀ turn ∈ turns, turn.Spares c.cooldownMark id)
    (modern : Modern (h ++ cycles c turns s)) (kept : Kept c.cooldownMark id h s.cluster) :
    Throughout (fun h e => (∃ profiles, Reasoned c profiles h e) ∧
      Kept c.cooldownMark id h e.before.cluster) h (cycles c turns s) := by
  induction turns generalizing h s with
  | nil => exact .nil
  | cons turn turns ih =>
      have reasoned := reasoned_reconcile c turn.profiles h (turn.outside s)
      have leads := World.Leads.run Cluster.world (reconcile c turn.profiles) (turn.outside s)
      rw [cycles, ← List.append_assoc] at modern
      obtain ⟨past, last⟩ :=
        kept_of_leads (kept.outside (spares turn (by simp))) reasoned modern.of_append leads
      refine Throughout.append_iff.mpr ⟨?_, ?_⟩
      · exact (reasoned.mono fun h e he => ⟨_, he⟩).and past
      · exact ih (fun turn ht => spares turn (by simp [ht])) modern last

/-! ## Two evictions -/

/-- The exchanges of an accepted eviction of a pod, with its owner, whose cooldown could be written when
the clock showed the time. -/
def Rested (p : Pod) (o : Owner) (t : Instant) : List (Exchange (Scene Cluster)) → Prop
  | [⟨s, .call (.evict p' _), .ok ()⟩, ⟨_, .record _, .ok ()⟩, ⟨_, .clock, .ok t'⟩,
      ⟨_, .call (.annotateOwner _ _), .ok ()⟩] =>
    p' = p ∧ t' = t ∧ s.cluster.resolve p = .ok (some o)
  | _ => False

instance (p : Pod) (o : Owner) (t : Instant) (l : List (Exchange (Scene Cluster))) :
    Decidable (Rested p o t l) := by
  simp only [Rested]
  split <;> infer_instance

/-- The deadline that was written is the next one, and it was written to the owner of the pod. -/
theorem Rested.writes {p : Pod} {o : Owner} {t : Instant} {first : List (Exchange (Scene Cluster))}
    (rested : Rested p o t first)
    (reasoned : Throughout (fun h e => ∃ profiles, Reasoned c profiles h e) h first) :
    ∃ s s' previous d, ⟨s, .clock, .ok t⟩ ∈ first ∧ Cooldown.deadline c.cooldownMark o = .ok previous ∧
      Cooldown.next? (.utc t) c.recheckInterval previous = some d ∧
      ⟨s', .call (.annotateOwner o (Cooldown.entry c.cooldownMark d)), .ok ()⟩ ∈ first := by
  simp only [Rested] at rested
  split at rested
  case h_2 => exact absurd rested id
  next s₀ p' g s₁ e s₂ t' s₃ patched entries =>
  obtain ⟨rfl, rfl, hs⟩ := rested
  obtain ⟨-, -, -, ⟨profiles, renews⟩, -⟩ := reasoned
  change Renews c s₃.cluster patched _ entries at renews
  rw [List.append_assoc, List.append_assoc] at renews
  generalize hh : h ++ _ = h' at renews
  obtain @⟨l, s, p', n, s', s'', now, previous, d, hs', -, hd, hn⟩ := renews
  obtain ⟨-, hlast⟩ := List.append_inj' hh rfl
  cases hlast
  obtain rfl := Option.some.inj (Except.ok.inj (hs.symm.trans hs'))
  exact ⟨s₂, s₃, previous, d, by simp, hd, hn, by simp⟩

/-- After an eviction whose cooldown was written, no other pod of the same owner is admitted before twice
the recheck interval is over, to the second. -/
theorem evictions_spaced (c : Config) (turns : List Turn) (s : Scene Cluster)
    {before first between after : List (Exchange (Scene Cluster))} {second : Exchange (Scene Cluster)}
    {p q : Pod} {o o' : Owner} {t : Instant} {gracePeriod : Document}
    (modern : Modern (cycles c turns s))
    (spares : ∀ turn ∈ turns, turn.Spares c.cooldownMark o.id)
    (split : cycles c turns s = before ++ first ++ between ++ second :: after)
    (rested : Rested p o t first)
    (asked : second.query = .call (.evict q gracePeriod))
    (resolved : second.before.cluster.resolve q = .ok (some o'))
    (same : o'.identity = o.identity) :
    ∃ now, lastReading? (before ++ first ++ between) = some now ∧
      (t.micros + 2 * c.recheckInterval.micros) / secondMicros * secondMicros ≤ now.micros := by
  have nothing : Kept c.cooldownMark o.id [] s.cluster := by
    intro _ _ _ _ he
    cases he
  have along := kept_cycles (h := []) spares modern nothing
  rw [split] at along
  obtain ⟨⟨profiles, justified⟩, kept⟩ := along.of_append_cons
  have alongFirst := (Throughout.append_iff.mp (Throughout.append_iff.mp
    (Throughout.append_iff.mp along).1).1).2
  obtain ⟨s₀, s₁, previous, d, hclock, hd, hn, written⟩ :=
    rested.writes (alongFirst.mono fun h e he => he.1)
  obtain ⟨ahead, -, whole⟩ := Cooldown.next?_spec hn
  have hkey := (Cooldown.deadline_eq_ok_iff.mp hd).1
  have late : .yearThousand ≤ d := modern.le_next (s := s₀) (by simp [split, hclock]) hn
  -- the deadline is still there when the second eviction is asked for
  obtain ⟨x, d', hx, hxd, hle⟩ := kept s₁ o _ d (by simp [written]) rfl
    (Cooldown.deadline_annotate hkey late whole)
  simp only [Reasoned] at justified
  rw [asked] at justified
  obtain ⟨now, last, justified⟩ := justified
  refine ⟨now, last, ?_⟩
  obtain ⟨d'', hd'', spent⟩ := justified.cooled o' resolved
  have stored : second.before.cluster.owner? o.id = some o' :=
    (congrArg second.before.cluster.owners.find? same.symm).trans (Cluster.owner?_resolve resolved)
  obtain rfl := Option.some.inj (hx.symm.trans stored)
  obtain rfl := Except.ok.inj (hxd.symm.trans hd'')
  exact Int.le_trans ahead (Int.le_trans hle (spent d' rfl))

end Run

/-! ## Two cycles -/

namespace Sample

/-- Two cycles, with nothing happening in between. -/
def turns : List Turn := [⟨fun s => s, profiles⟩, ⟨fun s => s, profiles⟩]

def noon : Instant := ⟨1714564800000000, by decide, by decide⟩

/-- The deadline four minutes past noon. -/
def later : Instant := ⟨1714565040000000, by decide, by decide⟩

/-- The owner in its first cooldown. -/
def resting : Owner := owner.annotate (Cooldown.entry config.cooldownMark later)

end Sample

open Sample in
theorem evictions_spaced_sample :
    ∃ before first between second after now,
      cycles config turns scene = before ++ first ++ between ++ second :: after ∧
      Rested (pod "web-1" "node-a") owner noon first ∧
      second.query.evictee? = some (pod "web-2" "node-b") ∧
      lastReading? (before ++ first ++ between) = some now ∧
      (noon.micros + 2 * config.recheckInterval.micros) / secondMicros * secondMicros ≤ now.micros := by
  have modern : Modern (cycles config turns scene) := by
    simp only [Modern]
    decide +kernel
  have spares : ∀ turn ∈ turns, turn.Spares config.cooldownMark owner.id := by
    simp only [turns, List.mem_cons, List.not_mem_nil, or_false, or_self]
    rintro turn rfl s o ho
    exact ⟨o, ho, rfl⟩
  have rested : Rested (pod "web-1" "node-a") owner noon
      (((cycles config turns scene).drop 10).take 4) := by decide +kernel
  have third : ((cycles config turns scene).drop 25).head?.any (fun e =>
      e.query.evictee? = some (pod "web-2" "node-b") ∧
        e.before.cluster.resolve (pod "web-2" "node-b") = .ok (some resting)) = true := by decide +kernel
  have pieces (l : List (Exchange (Scene Cluster))) :
      l = l.take 10 ++ (l.drop 10).take 4 ++ (l.drop 14).take 11 ++ l.drop 25 := by
    have rest : (l.drop 10).drop 4 = l.drop 14 := List.drop_drop
    have rest' : (l.drop 14).drop 11 = l.drop 25 := List.drop_drop
    rw [List.append_assoc, List.append_assoc, ← rest', List.take_append_drop, ← rest,
      List.take_append_drop, List.take_append_drop]
  have split := pieces (cycles config turns scene)
  cases hd : (cycles config turns scene).drop 25 with
  | nil =>
      rw [hd] at third
      cases third
  | cons second after =>
      rw [hd] at split third
      obtain ⟨asked, resolved⟩ : second.query.evictee? = some (pod "web-2" "node-b") ∧
          second.before.cluster.resolve (pod "web-2" "node-b") = .ok (some resting) := by
        simpa only [List.head?_cons, Option.any_some, decide_eq_true_eq] using third
      obtain ⟨g, hq⟩ := Query.evictee?_eq_some_iff.mp asked
      obtain ⟨now, last, spent⟩ :=
        evictions_spaced config turns scene modern spares split rested hq resolved rfl
      exact ⟨_, _, _, second, after, now, split, rested, asked, last, spent⟩

end Cycle

end NodeRelief
