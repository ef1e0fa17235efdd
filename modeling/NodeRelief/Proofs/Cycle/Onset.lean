import NodeRelief.Proofs.Cycle.Gate

/-! # The onset of a cooldown

A deadline is written to the second, so it may not be ahead of the time at which it is written. Where it is,
the gate rejects every pod of the owner from then on; where it is not, the cooldown is over at once. -/

namespace NodeRelief

namespace Cooldown

/-! ## Deadlines ahead -/

/-- Whether twice the interval from now comes to another second than now, or the deadline before was not
before the second of now. -/
def Lasts (now : Instant) (interval : Duration) (previous : Option Instant) : Prop :=
  secondMicros ≤ now.micros % secondMicros + 2 * interval.micros ∨ ∃ p ∈ previous, now.floorSecond ≤ p

theorem lasts_of_half_second {now : Instant} {interval : Duration}
    (half : secondMicros ≤ 2 * interval.micros) (previous : Option Instant) :
    Lasts now interval previous := by
  left
  simp only [secondMicros] at half ⊢
  omega

/-- The next deadline is ahead just if it lasts. -/
theorem lt_next?_iff {now t : Instant} {interval : Duration} {previous : Option Instant}
    (h : next? (.utc now) interval previous = some t) (positive : 0 < interval.micros) :
    now < t ↔ Lasts now interval previous := by
  obtain ⟨-, closed⟩ := next?_eq_some_iff.mp h
  change now.micros < t.micros ↔ _
  cases previous with
  | none =>
      simp only [nextMicros, LocalTime.micros_utc, Instant.wholeSecond, secondMicros] at closed
      simp only [Lasts, secondMicros, Option.mem_def, reduceCtorEq, false_and, exists_false, or_false]
      omega
  | some p =>
      have second : now.floorSecond ≤ p ↔ Instant.wholeSecond now.micros ≤ p.micros := Iff.rfl
      simp only [nextMicros, LocalTime.micros_utc, Instant.wholeSecond, secondMicros] at closed
      simp only [Lasts, Option.mem_def, Option.some.injEq, exists_eq_left', second, Instant.wholeSecond,
        secondMicros]
      omega

theorem active_of_deadline {mark : Document} {o : Owner} {t : Instant}
    (h : deadline mark o = .ok (some t)) (now : Instant) :
    active mark o now = .ok (if now < t then some t else none) := by
  rw [active, h, Fault.ok_map, Option.filter_some]
  simp only [decide_eq_true_eq]

/-! ## Deadlines written -/

/-- Whether an owner is patched. -/
def patches {σ : Type} : Exchange σ → Bool
  | ⟨_, .call (.annotateOwner _ _), .ok ()⟩ => true
  | _ => false

/-- What a record comes to if the owner is patched. -/
theorem Records.of_patches {σ : Type} {mark : Document} {interval : Duration} {o : Owner}
    {now : Instant} {l : List (Exchange σ)} {v : Except Fault (Option Instant × Owner)}
    (h : Records mark interval o now l v) (patched : l.any patches = true) :
    ∃ previous t s s' r, deadline mark o = .ok previous ∧
      next? (.utc now) interval previous = some t ∧
      l = [⟨s, .call (.annotateOwner o (entry mark t)), .ok ()⟩,
        ⟨s', .record (.cooldownSet o (Timestamp.write t)), r⟩] ∧
      v = r.map fun _ => (some t, o.annotate (entry mark t)) := by
  cases h with
  | unreadable | endless | refused | broken => cases patched
  | written hd hn s s' r hv => exact ⟨_, _, s, s', r, hd, hn, rfl, hv.symm⟩

end Cooldown

namespace Admission

section

variable {mark : Document} {p : Pod} {o : Owner} {now : Instant} {s : Scene Cluster}

theorem cooldownOf_of_active {d : Option Instant} (active : Cooldown.active mark o now = .ok d) :
    cooldownOf mark (some o) now = .ok (d.map (o, ·)) := by
  rw [cooldownOf, active]
  rfl

/-- Whether the budgets decide about a pod depends on the deadline of its owner. -/
theorem lists_judgement_iff (resolved : s.cluster.resolve p = .ok (some o)) {d : Option Instant}
    (active : Cooldown.active mark o now = .ok d) :
    Lists (judgement mark p now s).exchanges ↔ d = none := by
  obtain ⟨-, -, lists⟩ := evaluate_ensures mark p now s
  rw [← judgement, List.nil_append, resolved] at lists
  rw [lists]
  constructor
  · rintro ⟨owner, ⟨⟩, past⟩
    simpa [cooldownOf_of_active active] using past
  · rintro rfl
    exact ⟨some o, rfl, cooldownOf_of_active active⟩

/-- While its owner's deadline is ahead a pod is rejected. -/
theorem judgement_of_active (resolved : s.cluster.resolve p = .ok (some o)) {t : Instant}
    (active : Cooldown.active mark o now = .ok (some t)) :
    (judgement mark p now s).outcome =
      (s.recorder.record (.evictionSkipped p o (Timestamp.write t))).1.map fun _ =>
        ⟨some o, some (.cooldown,
          "owner " ++ o.name.plain ++ " in cooldown until " ++ Timestamp.write t)⟩ := by
  obtain ⟨told, -, -⟩ := evaluate_ensures mark p now s
  have knows : known (.ok (some o)) = .ok (some o) := rfl
  rw [← judgement, finding, resolved, knows, Fault.ok_bind, cooldownOf_of_active active] at told
  exact (Prod.mk.inj told).1

end

end Admission

namespace Cluster

/-- The owner that a patch was accepted for has the entries from then on. -/
theorem owner?_of_patchOwner {c c' : Cluster} {o : Owner} {entries : Mapping}
    (h : c.patchOwner o entries = (.ok (), c')) :
    ∃ stored : Owner, c'.owner? o.id = some (stored.annotate entries) := by
  rcases c.patchOwner_cases o entries with ⟨f, refused⟩ | ⟨stored, there, written⟩
  · rw [refused] at h
    cases h
  · obtain rfl : c.putOwner (stored.annotate entries) = c' := (Prod.mk.inj (written.symm.trans h)).2
    have own : (stored.annotate entries).identity = o.id.canonical := (Register.mem_of_find? there).2
    exact ⟨stored, by rw [owner?_putOwner, if_pos own]⟩

end Cluster

namespace Cycle

/-! ## What is written -/

/-- The run that records a cooldown of an owner. -/
def onset (c : Config) (o : Owner) (now : Instant) (s : Scene Cluster) :
    Run (Scene Cluster) (Option Instant × Owner) :=
  (Cooldown.record c.cooldownMark c.recheckInterval o now).run Cluster.world s

/-- A cooldown of an owner has begun: the deadline that follows on the one before is answered, if anything
is, and it is that of the owner answered and of the stored one. -/
structure Begun (c : Config) (o : Owner) (now : Instant)
    (run : Run (Scene Cluster) (Option Instant × Owner)) (previous : Option Instant) (t : Instant)
    (stored : Owner) : Prop where
  before : Cooldown.deadline c.cooldownMark o = .ok previous
  next : Cooldown.next? (.utc now) c.recheckInterval previous = some t
  answered : ∀ v, run.outcome = .ok v → v.1 = some t ∧
    Cooldown.deadline c.cooldownMark v.2 = .ok (some t)
  there : run.state.cluster.owner? o.id = some stored
  deadline : Cooldown.deadline c.cooldownMark stored = .ok (some t)

theorem exists_begun {c : Config} {o : Owner} {now : Instant} {s : Scene Cluster}
    (modern : .yearThousand ≤ now) (patched : (onset c o now s).exchanges.any Cooldown.patches = true) :
    ∃ previous t stored, Begun c o now (onset c o now s) previous t stored := by
  have records := Cooldown.records_of_course
    (.run Cluster.world (Cooldown.record c.cooldownMark c.recheckInterval o now) s)
  have leads := World.Leads.run Cluster.world
    (Cooldown.record c.cooldownMark c.recheckInterval o now) s
  rw [← onset] at records leads
  obtain ⟨previous, t, s₁, s₂, r, hd, hn, hl, outcome⟩ := records.of_patches patched
  rw [hl] at leads
  obtain ⟨rfl, s₂, annotated, recorded⟩ := World.Leads.cons_iff.mp leads
  obtain ⟨rfl, s₃, reported, last⟩ := World.Leads.cons_iff.mp recorded
  obtain rfl : s₃ = (onset c o now s₁).state := last
  have cluster := Cluster.hosts.of_reply_isRead rfl reported
  obtain ⟨stored, there⟩ := Cluster.owner?_of_patchOwner (Cluster.hosts.answer_of_reply annotated)
  have hkey := (Cooldown.deadline_eq_ok_iff.mp hd).1
  have late := Cooldown.yearThousand_le_next? hn modern c.recheckInterval_pos
  have whole := (Cooldown.next?_spec hn).2.2
  have written (o : Owner) := Cooldown.deadline_annotate (o := o) hkey late whole
  refine ⟨previous, t, _, hd, hn, fun v answered => ?_, cluster ▸ there, written stored⟩
  obtain ⟨-, -, rfl⟩ := Fault.map_eq_ok_iff.mp (outcome.symm.trans answered)
  exact ⟨rfl, written o⟩

/-- Where a cooldown has been written, it is in force at once just if it lasts: then the gate rejects every
pod of the owner at that time, and otherwise its deadline is past already and the budgets decide. It lasts
whenever the recheck interval is half a second or more. -/
theorem cooldown_onset {c : Config} {o : Owner} {now : Instant} {s : Scene Cluster}
    (modern : 1000 ≤ now.year) (patched : (onset c o now s).exchanges.any Cooldown.patches = true) :
    ∃ previous t stored, Begun c o now (onset c o now s) previous t stored ∧
      (Cooldown.Lasts now c.recheckInterval previous →
        Cooldown.active c.cooldownMark stored now = .ok (some t) ∧
        ∀ p, (onset c o now s).state.cluster.resolve p = .ok (some stored) →
          let gate := Admission.judgement c.cooldownMark p now (onset c o now s).state
          ¬ Admission.Lists gate.exchanges ∧
            gate.outcome = ((onset c o now s).state.recorder.record
                (.evictionSkipped p stored (Timestamp.write t))).1.map fun _ =>
              ⟨some stored, some (.cooldown,
                "owner " ++ stored.name.plain ++ " in cooldown until " ++ Timestamp.write t)⟩) ∧
      (¬ Cooldown.Lasts now c.recheckInterval previous →
        Cooldown.active c.cooldownMark stored now = .ok none ∧
        ∀ p, (onset c o now s).state.cluster.resolve p = .ok (some stored) →
          Admission.Lists
            (Admission.judgement c.cooldownMark p now (onset c o now s).state).exchanges) ∧
      (500000 ≤ c.recheckInterval.micros → Cooldown.Lasts now c.recheckInterval previous) := by
  obtain ⟨previous, t, stored, begun⟩ := exists_begun (Instant.year_ge_thousand_iff.mp modern) patched
  have ahead := Cooldown.lt_next?_iff begun.next c.recheckInterval_pos
  have active := Cooldown.active_of_deadline begun.deadline now
  refine ⟨previous, t, stored, begun, fun lasts => ?_, fun past => ?_, fun half => ?_⟩
  · rw [if_pos (ahead.mpr lasts)] at active
    refine ⟨active, fun p resolved => ⟨?_, Admission.judgement_of_active resolved active⟩⟩
    simp [Admission.lists_judgement_iff resolved active]
  · rw [if_neg (mt ahead.mp past)] at active
    exact ⟨active, fun p resolved => (Admission.lists_judgement_iff resolved active).mpr rfl⟩
  · refine Cooldown.lasts_of_half_second ?_ previous
    simp only [secondMicros]
    omega

namespace Sample

def halfSecond : Config :=
  ⟨{ recheckInterval := ⟨500000, by decide, by decide⟩ }, by decide, by decide⟩

def brief : Config :=
  ⟨{ recheckInterval := ⟨400000, by decide, by decide⟩ }, by decide, by decide⟩

/-- The owner with a deadline a second past noon. -/
def briefly : Owner :=
  owner.annotate (Cooldown.entry cooldownMarkName ⟨1714564801000000, by decide, by decide⟩)

/-- The owner with a deadline at noon. -/
def expired : Owner := owner.annotate (Cooldown.entry cooldownMarkName noon)

end Sample

open Sample in
/-- At an interval of half a second the next pod of the owner is rejected at the same time. -/
theorem cooldown_onset_sample :
    1000 ≤ noon.year ∧ (onset halfSecond owner noon scene).exchanges.any Cooldown.patches = true ∧
      (onset halfSecond owner noon scene).state.cluster.resolve (pod "web-2" "node-b") =
        .ok (some briefly) ∧
      ¬ Admission.Lists (Admission.judgement halfSecond.cooldownMark (pod "web-2" "node-b") noon
        (onset halfSecond owner noon scene).state).exchanges := by
  have modern : 1000 ≤ noon.year := by decide +kernel
  have patched : (onset halfSecond owner noon scene).exchanges.any Cooldown.patches = true := by
    decide +kernel
  have resolved : (onset halfSecond owner noon scene).state.cluster.resolve (pod "web-2" "node-b") =
      .ok (some briefly) := by decide +kernel
  obtain ⟨previous, t, stored, begun, rejects, -, lasts⟩ := cooldown_onset modern patched
  obtain rfl : briefly = stored :=
    Option.some.inj ((Cluster.owner?_resolve resolved).symm.trans begun.there)
  exact ⟨modern, patched, resolved, ((rejects (lasts (by decide))).2 _ resolved).1⟩

open Sample in
/-- A deadline less than a second ahead is cut to the second of noon, and the next pod of the owner is
admitted. -/
theorem cooldown_over_at_once :
    (onset brief owner noon scene).exchanges.any Cooldown.patches = true ∧
      (onset brief owner noon scene).state.cluster.owner? owner.id = some expired ∧
      Cooldown.active brief.cooldownMark expired noon = .ok none ∧
      (Admission.judgement brief.cooldownMark (pod "web-2" "node-b") noon
        (onset brief owner noon scene).state).outcome = .ok ⟨some expired, none⟩ := by
  refine ⟨?_, ?_, ?_, ?_⟩ <;> decide +kernel

end Cycle

end NodeRelief
