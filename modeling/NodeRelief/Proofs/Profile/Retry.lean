import NodeRelief.Proofs.Profile.Deeds

/-!
# Attempt after attempt

How a watch retries. An attempt is a list and the streams that follow on it. One that fails is followed
by the next, at once if the version has expired and after one wait otherwise; one that sees that the
watch is to stop is the last.
-/

namespace NodeRelief.Watch

open Document (part)
open Deed (pause failing isCall isStep ofStep? Continues)

/-! ## What deeds follow on each other -/

/-- Where a watch stands in its attempts. -/
inductive Place where
  | between
  | within

/-- What a watch still does, from between two attempts or from within one. -/
inductive Attempts (us : Int) : Place → List Deed → Prop
  | ends : Attempts us .between [.sawStop]
  | begins {deeds : List Deed} (rest : Attempts us .within deeds) :
      Attempts us .between (.listed :: deeds)
  | continues {d : Deed} {deeds : List Deed} (continues : Continues d)
      (rest : Attempts us .within deeds) : Attempts us .within (d :: deeds)
  | fails {deeds : List Deed} (f : Fault) (rest : Attempts us .between deeds) :
      Attempts us .within (failing us f ++ deeds)
  | rests : Attempts us .within [.sawStop, .waited us, .sawStop]

namespace Attempts

variable {us : Int} {place : Place} {deeds after between : List Deed} {f : Fault}

theorem suffix_of_continues {d d' : Deed} (hd : Continues d) (hd' : ¬ Continues d')
    (h : d' :: after <:+ d :: deeds) : d' :: after <:+ deeds := by
  rcases List.suffix_cons_iff.mp h with heq | h
  · obtain ⟨rfl, -⟩ := List.cons.inj heq
    exact absurd hd hd'
  · exact h

theorem suffix_failing {d : Deed} (h : d :: after <:+ failing us f ++ deeds) :
    d = .failed f ∧ after = pause us f ++ deeds ∨ d = .waited us ∨ d :: after <:+ deeds := by
  rw [failing, List.cons_append, List.suffix_cons_iff] at h
  rcases h with heq | h
  · exact .inl (List.cons.inj heq)
  · right
    rw [pause] at h
    split at h
    · exact .inr h
    · exact (List.suffix_cons_iff.mp h).imp_left fun heq => (List.cons.inj heq).1

/-- Nothing is taken in, nor called, once the stop has been seen. -/
theorem quiet (h : Attempts us place deeds) (hafter : .sawStop :: after <:+ deeds) :
    ∀ d ∈ after, d = .sawStop ∨ d = .waited us := by
  induction h with
  | ends =>
      obtain rfl : after = [] := by simpa [List.suffix_cons_iff] using hafter
      simp
  | begins rest ih =>
      rcases List.suffix_cons_iff.mp hafter with heq | hafter
      · cases heq
      · exact ih hafter
  | continues continues rest ih => exact ih (suffix_of_continues continues nofun hafter)
  | fails f rest ih =>
      rcases suffix_failing hafter with ⟨⟨⟩, -⟩ | ⟨⟨⟩⟩ | hafter
      exact ih hafter
  | rests =>
      obtain rfl | rfl : after = [.waited us, .sawStop] ∨ after = [] := by
        simpa [List.suffix_cons_iff] using hafter
      · simp
      · simp

/-- Between two attempts, the next call is a list. -/
theorem find?_isCall (h : Attempts us .between deeds) {d : Deed}
    (hd : deeds.find? isCall = some d) : d = .listed := by
  cases h with
  | ends => cases hd
  | begins => exact (Option.some.inj hd).symm

theorem fresh (h : Attempts us place deeds) (hafter : .failed f :: after <:+ deeds) {d : Deed}
    (hd : after.find? isCall = some d) : d = .listed := by
  induction h with
  | ends => simp [List.suffix_cons_iff] at hafter
  | begins rest ih =>
      rcases List.suffix_cons_iff.mp hafter with heq | hafter
      · cases heq
      · exact ih hafter
  | continues continues rest ih => exact ih (suffix_of_continues continues nofun hafter)
  | fails g rest ih =>
      rcases suffix_failing hafter with ⟨⟨⟩, rfl⟩ | ⟨⟨⟩⟩ | hafter
      · rw [List.find?_append, Deed.find?_isCall_pause, Option.none_or] at hd
        exact rest.find?_isCall hd
      · exact ih hafter
  | rests => simp [List.suffix_cons_iff] at hafter

/-- Between two attempts, the next list comes before all else. -/
theorem eq_nil_of_between (h : Attempts us .between deeds)
    (hlists : deeds = between ++ .listed :: after) (hbetween : .listed ∉ between) :
    between = [] := by
  cases between with
  | nil => rfl
  | cons d between =>
      cases h with
      | ends => simp at hlists
      | begins =>
          obtain ⟨rfl, -⟩ := List.cons.inj hlists
          exact absurd (List.mem_cons_self ..) hbetween

/-- An attempt that another follows on has failed. -/
theorem exists_failing (h : Attempts us place deeds) (hplace : place = .within)
    (hlists : deeds = between ++ .listed :: after) (hbetween : .listed ∉ between) :
    ∃ taken f, between = taken ++ failing us f ∧ ∀ d ∈ taken, Continues d := by
  induction h generalizing between with
  | ends | begins => cases hplace
  | @continues d deeds continues rest ih =>
      cases between with
      | nil =>
          obtain ⟨rfl, -⟩ := List.cons.inj hlists
          cases continues
      | cons d' between =>
          obtain ⟨rfl, htail⟩ := List.cons.inj hlists
          obtain ⟨taken, f, rfl, htaken⟩ := ih rfl htail fun h => hbetween (List.mem_cons_of_mem _ h)
          exact ⟨d :: taken, f, rfl, List.forall_mem_cons.mpr ⟨continues, htaken⟩⟩
  | fails f rest =>
      rcases List.append_eq_append_iff.mp hlists with ⟨between', rfl, htail⟩ | ⟨l, hl, htail⟩
      · obtain rfl := rest.eq_nil_of_between htail fun h => hbetween (List.mem_append_right _ h)
        exact ⟨[], f, by simp, by simp⟩
      · cases l with
        | nil => exact ⟨[], f, by simpa using hl.symm, by simp⟩
        | cons d l =>
            obtain ⟨rfl, -⟩ := List.cons.inj htail
            have hmem : Deed.listed ∈ failing us f := hl ▸ by simp
            simp at hmem
  | rests =>
      have hmem : Deed.listed ∈ between ++ .listed :: after := by simp
      simp [← hlists] at hmem

theorem separated (h : Attempts us place deeds)
    (hlists : .listed :: (between ++ .listed :: after) <:+ deeds) (hbetween : .listed ∉ between) :
    ∃ taken f, between = taken ++ failing us f ∧ ∀ d ∈ taken, Continues d := by
  induction h with
  | ends => simp [List.suffix_cons_iff] at hlists
  | begins rest ih =>
      rcases List.suffix_cons_iff.mp hlists with heq | hlists
      · exact rest.exists_failing rfl (List.cons.inj heq).2.symm hbetween
      · exact ih hlists
  | continues continues rest ih => exact ih (suffix_of_continues continues nofun hlists)
  | fails f rest ih =>
      rcases suffix_failing hlists with ⟨⟨⟩, -⟩ | ⟨⟨⟩⟩ | hlists
      exact ih hlists
  | rests => simp [List.suffix_cons_iff] at hlists

end Attempts

/-- What the deeds of a watch have to do with its attempts. -/
structure Disciplined (us : Int) (deeds : List Deed) : Prop where
  /-- From one list to the next an attempt goes on until it fails; then comes one wait, or none if the
  version has expired. -/
  separated : ∀ {between after}, .listed :: (between ++ .listed :: after) <:+ deeds →
    .listed ∉ between → ∃ taken f, between = taken ++ failing us f ∧ ∀ d ∈ taken, Continues d
  /-- The next call after a failure is a list. -/
  fresh : ∀ {f after d}, .failed f :: after <:+ deeds → after.find? isCall = some d → d = .listed
  /-- Nothing is taken in, nor called, once the stop has been seen. -/
  quiet : ∀ {after}, .sawStop :: after <:+ deeds → ∀ d ∈ after, d = .sawStop ∨ d = .waited us

theorem Attempts.disciplined {us : Int} {place : Place} {deeds : List Deed}
    (h : Attempts us place deeds) : Disciplined us deeds where
  separated := h.separated
  fresh hafter hd := h.fresh hafter hd
  quiet := h.quiet

/-! ## What deeds a watch does -/

namespace Moment

variable {us : Int} {m m' m'' : Moment} {deeds rest : List Deed}

/-- What is done from a moment on until the loop ends. -/
def Course (us : Int) (m : Moment) (deeds : List Deed) : Prop :=
  match m.stage with
  | .listing => Attempts us .between deeds ∧ (m.watch.stopped = true → deeds = [.sawStop])
  | .opening _ | .reading _ _ => Attempts us .within deeds
  | .ended _ => deeds = []

theorem Course.between (h : Course us m deeds) (stage : m.stage = .listing) :
    Attempts us .between deeds := by
  rw [Course, stage] at h
  exact h.1

theorem Turn.course (h : Turn us m deeds m') (hrest : Course us m' rest) :
    Course us m (deeds ++ rest) := by
  cases h with
  | ends stage =>
      obtain rfl : rest = [] := hrest
      rw [Course, stage]
      exact ⟨.ends, fun _ => rfl⟩
  | listsLast stage running =>
      obtain rfl : rest = [] := hrest
      rw [Course, stage, running]
      exact ⟨.begins (.continues .answered .rests), by simp⟩
  | lists stage running =>
      rw [Course, stage, running]
      exact ⟨.begins (.continues .answered hrest), by simp⟩
  | refused stage running =>
      rw [Course, stage, running]
      exact ⟨.begins (.fails _ (hrest.between rfl)), by simp⟩
  | rests stage stopped =>
      obtain rfl : rest = [.sawStop] := hrest.2 stopped
      rw [Course, stage]
      exact .rests
  | opens stage =>
      rw [Course, stage]
      exact .continues (.opened _) hrest
  | opensLast stage =>
      obtain rfl : rest = [.sawStop] := hrest.2 rfl
      rw [Course, stage]
      exact .continues (.opened _) .rests
  | closed stage =>
      rw [Course, stage]
      exact hrest
  | dropped stage =>
      obtain rfl : rest = [.sawStop] := hrest.2 rfl
      rw [Course, stage]
      exact .rests
  | broken stage | rejected stage =>
      rw [Course, stage]
      exact .fails _ (hrest.between rfl)
  | applied stage =>
      rw [Course, stage]
      exact .continues (.applied _) hrest
  | misread stage =>
      rw [Course, stage]
      exact .continues (.applied _) (.fails _ (hrest.between rfl))

theorem Run.course (h : Run us m deeds m') (ended : m'.Ended) : Course us m deeds := by
  induction h with
  | refl =>
      obtain ⟨outcome, stage⟩ := ended
      rw [Course, stage]
  | head turn _ ih => exact turn.course (ih ended)

/-! ### What the watch itself has of them -/

/-- A watch records the calls and the waits of its deeds. -/
theorem Turn.recorded (h : Turn us m deeds m') :
    m'.watch.recorded = m.watch.recorded ++ deeds.filter isStep := by
  cases h <;> simp [List.filter_cons, isStep, ofStep?]

theorem Turn.synced (h : Turn us m deeds m') :
    m'.watch.synced = true ↔ m.watch.synced = true ∨ .answered ∈ deeds := by
  cases h <;> simp [listing, opening, stop, step, apply]

/-- Whether a watch has seen that it is to stop, and has left its streams. -/
structure Parting (m : Moment) : Prop where
  stopped : m.watch.stopped = true
  outside : m.stage = .listing ∨ m.Ended

theorem Turn.parting (h : Turn us m deeds m') (saw : .sawStop ∈ deeds) : Parting m' := by
  cases h with
  | ends stage stopped => exact ⟨stopped, .inr ⟨_, rfl⟩⟩
  | listsLast => exact ⟨rfl, .inr ⟨_, rfl⟩⟩
  | rests stage stopped => exact ⟨stopped, .inl rfl⟩
  | opensLast | dropped => exact ⟨rfl, .inl rfl⟩
  | _ => simp at saw

theorem Parting.turn (h : Parting m) (turn : Turn us m deeds m') :
    Parting m' ∧ m'.watch.feed = m.watch.feed := by
  obtain ⟨stopped, outside⟩ := h
  cases turn with
  | ends => exact ⟨⟨stopped, .inr ⟨_, rfl⟩⟩, rfl⟩
  | listsLast _ running | lists _ running | refused _ running =>
      rw [stopped] at running
      cases running
  | rests stage | opens stage | opensLast stage | closed stage | broken stage | dropped stage
  | rejected stage | applied stage | misread stage =>
      simp [Ended, stage] at outside

/-! ### Lists that fail -/

/-- A list that is answered with a fault is an attempt that fails with it. -/
theorem Turn.eq_of_refused {f : Fault} {answers : List (Except Fault Document)}
    (h : Turn us m deeds m') (stage : m.stage = .listing) (running : m.watch.stopped = false)
    (hanswers : m.answers = .error f :: answers) : deeds = .listed :: failing us f := by
  cases h with
  | refused _ _ hanswers' fails =>
      cases hanswers.symm.trans hanswers'
      obtain rfl := Except.error.inj (Prod.mk.inj fails).1
      rfl
  | lists _ _ hanswers' lists =>
      cases hanswers.symm.trans hanswers'
      cases (Prod.mk.inj lists).1
  | _ => simp_all

/-! ### Expired versions -/

section

variable {version event : Document} {items : List StreamItem} {f : Fault}

theorem expires_listing_iff (stage : m.stage = .listing) {answer : Except Fault Document}
    {rest : List (Except Fault Document)} (answers : m.answers = answer :: rest) :
    m.Expires ↔ ∃ f, answer = .error f ∧ isExpired f = true := by
  constructor
  · rintro (⟨-, answers', gone⟩ | ⟨stage', -⟩ | ⟨stage', -, -, -, -⟩)
    · obtain ⟨rfl, -⟩ := List.cons.inj (answers.symm.trans answers')
      exact ⟨_, rfl, gone⟩
    · cases stage.symm.trans stage'
    · cases stage.symm.trans stage'
  · rintro ⟨f, rfl, expired⟩
    obtain ⟨status, reason, rfl, gone⟩ := Watch.isExpired_iff.mp expired
    exact .listed stage answers gone

theorem expires_broken_iff (stage : m.stage = .reading version (.broken f :: items)) :
    m.Expires ↔ isExpired f = true := by
  constructor
  · rintro (⟨stage', -, -⟩ | ⟨stage', gone⟩ | ⟨stage', -, -, -, -⟩)
    · cases stage.symm.trans stage'
    · cases stage.symm.trans stage'
      exact gone
    · cases stage.symm.trans stage'
  · intro expired
    obtain ⟨status, reason, rfl, gone⟩ := Watch.isExpired_iff.mp expired
    exact .streamed stage gone

theorem expires_event_iff {stops : Bool}
    (stage : m.stage = .reading version (.event event stops :: items)) :
    m.Expires ↔ ∃ fields code, part "type" event = .ok (.text "ERROR") ∧
      part "object" event = .ok (.object fields) ∧ Document.field? "code" fields = some code ∧
      code.agrees (.int 410) = true := by
  constructor
  · rintro (⟨stage', -, -⟩ | ⟨stage', -⟩ | ⟨stage', type, object, hcode, gone⟩)
    · cases stage.symm.trans stage'
    · cases stage.symm.trans stage'
    · cases stage.symm.trans stage'
      exact ⟨_, _, type, object, hcode, gone⟩
  · rintro ⟨fields, code, type, object, hcode, gone⟩
    exact .told stage type object hcode gone

/-- What fails is an expired version if what comes next says so. -/
theorem Turn.isExpired_iff (h : Turn us m deeds m') (hf : .failed f ∈ deeds) :
    isExpired f = true ↔ m.Expires := by
  cases h with
  | refused stage running answers fails =>
      obtain rfl : f = _ := by simpa using hf
      rw [expires_listing_iff stage answers]
      rcases eq_error_or_shapeless fails with rfl | ⟨⟨d, rfl⟩, shapeless⟩
      · simp
      · simp [shapeless.unexpired]
  | broken stage =>
      obtain rfl : f = _ := by simpa using hf
      exact (expires_broken_iff stage).symm
  | rejected stage running rejects =>
      obtain rfl : f = _ := by simpa using hf
      rw [expires_event_iff stage, rejects.isExpired_iff]
  | misread stage running hands fails =>
      obtain rfl : f = _ := by simpa using hf
      rw [expires_event_iff stage, hands.type]
      simp [(Shapeless.of_nextVersion fails).unexpired, hands.noError]
  | _ => simp at hf

end

/-! ### Whole runs -/

theorem Run.recorded (h : Run us m deeds m') :
    m'.watch.recorded = m.watch.recorded ++ deeds.filter isStep := by
  induction h with
  | refl => simp
  | head turn _ ih => rw [ih, turn.recorded, List.filter_append, List.append_assoc]

theorem Run.synced (h : Run us m deeds m') :
    m'.watch.synced = true ↔ m.watch.synced = true ∨ .answered ∈ deeds := by
  induction h with
  | refl => simp
  | head turn _ ih => rw [ih, turn.synced, List.mem_append, or_assoc]

theorem Parting.run (h : Parting m) (run : Run us m deeds m') :
    Parting m' ∧ m'.watch.feed = m.watch.feed := by
  induction run with
  | refl => exact ⟨h, rfl⟩
  | head turn _ ih =>
      obtain ⟨parting, same⟩ := h.turn turn
      exact (ih parting).imp_right fun same' => same'.trans same

theorem Run.parting (h : Run us m deeds m') (saw : .sawStop ∈ deeds) : Parting m' := by
  induction h with
  | refl => cases saw
  | head turn run ih =>
      rcases List.mem_append.mp saw with saw | saw
      · exact ((turn.parting saw).run run).1
      · exact ih saw

/-- Whether a watch that began so went through these deeds to its end, as it should. -/
structure Retries (us : Int) (first : Moment) (deeds : List Deed) (last : Moment) : Prop where
  run : Run us first deeds last
  /-- From every moment of the run the loop comes to what it comes to from the first. -/
  finish : ∀ {before m}, Run us first before m → m.finish = first.finish
  ended : last.stage = .ended (.ok ())
  stopped : last.watch.stopped = true
  disciplined : Disciplined us deeds
  /-- An attempt whose list is answered with a fault fails with it. -/
  refused : ∀ {before m now m' f answers}, Run us first before m → Turn us m now m' →
    m.stage = .listing → m.watch.stopped = false → m.answers = .error f :: answers →
    now = .listed :: failing us f
  /-- A failure is that of an expired version if the answer or the item that failed says so. -/
  expired : ∀ {before m now m' f}, Run us first before m → Turn us m now m' → .failed f ∈ now →
    (isExpired f = true ↔ m.Expires)
  /-- The store stays as it is once the stop has been seen. -/
  unmoved : ∀ {before m after m'}, Run us first before m → .sawStop ∈ before → Run us m after m' →
    m'.watch.feed = m.watch.feed
  synced : ∀ {before m}, Run us first before m → (m.watch.synced = true ↔ .answered ∈ before)
  /-- The watch has recorded the calls and the waits. -/
  recorded : ∀ {before m}, Run us first before m → m.watch.recorded = before.filter isStep

theorem Run.retries (h : Run us m deeds m') (ended : m'.Ended) (ready : Ready us m)
    (unsynced : m.watch.synced = false) (unrecorded : m.watch.recorded = [])
    (stage : m.stage = .listing) : Retries us m deeds m' where
  run := h
  finish before := before.finish ready
  ended := ((h.ready ready).ended ended).1
  stopped := ((h.ready ready).ended ended).2
  disciplined := ((h.course ended).between stage).disciplined
  refused _ turn stage running answers := turn.eq_of_refused stage running answers
  expired _ turn hf := turn.isExpired_iff hf
  unmoved before saw after := ((before.parting saw).run after).2
  synced before := by simp [before.synced, unsynced]
  recorded before := by simp [before.recorded, unrecorded]

theorem finish_of_ended {outcome : Except Fault Unit} (stage : m.stage = .ended outcome) :
    m.finish = ⟨outcome, m.watch, m.streams⟩ := by
  rcases m with ⟨_, w, streams, answers⟩
  subst stage
  rfl

theorem ready_start {settings : WatchSettings} (delay : settings.DelayIs us) (store : ProfileStore)
    (stopped : Bool) {streams : List (List StreamItem)} {answers : List (Except Fault Document)}
    (hanswers : ∀ f, .error f ∈ answers → f.isInterruption = false)
    (hstreams : ∀ items ∈ streams, Endures items) :
    Ready us ⟨.listing, start settings store stopped, streams, answers⟩ where
  delay := delay
  answers := hanswers
  streams := hstreams
  reading := by rintro _ _ ⟨⟩
  ended := by rintro ⟨_, ⟨⟩⟩

/-- Whatever the lists and the streams bring, be it faults, documents of any shape or the stop, the loop
ends only once it is asked to stop, and never with a fault. From one list to the next there is one wait,
or none after an expired version; a list that is answered with a fault fails with it; the next call after
a failure is a list; nothing is taken in once the stop has been seen; and the watch is synced from its
first list on that is answered. -/
theorem retries_disciplined {settings : WatchSettings} (delay : settings.DelayIs us)
    (store : ProfileStore) (stopped : Bool) {streams : List (List StreamItem)}
    {answers : List (Except Fault Document)}
    (hanswers : ∀ f, .error f ∈ answers → f.isInterruption = false)
    (hstreams : ∀ items ∈ streams, Endures items) :
    ∃ deeds last,
      Retries us ⟨.listing, start settings store stopped, streams, answers⟩ deeds last ∧
      loop (start settings store stopped) streams answers = ⟨.ok (), last.watch, last.streams⟩ := by
  have ready := ready_start delay store stopped hanswers hstreams
  obtain ⟨deeds, last, run, ended⟩ := exists_run ready
  have retries := run.retries ended ready rfl rfl rfl
  refine ⟨deeds, last, retries, ?_⟩
  rw [← finish_of_ended retries.ended, run.finish ready]
  rfl

namespace Sample

def settings : WatchSettings := ⟨.int 30, .int 300, .int 5⟩

def list (version : String) : Document :=
  .object [("metadata", .object [("resourceVersion", .text version)]), ("items", .null)]

def expired : Document :=
  .object [("type", .text "ERROR"), ("object", .object [("code", .int 410)])]

def answers : List (Except Fault Document) :=
  [.error (.transport "connection refused"), .ok (list "7"), .ok (list "9")]

def streams : List (List StreamItem) := [[.event expired false]]

theorem deeds_eq {last : Moment} (run : Run 5000000
    ⟨.listing, start settings .empty false, streams, answers⟩ deeds last) (ended : last.Ended) :
    deeds =
      [.listed, .failed (.transport "connection refused"), .waited 5000000,
        .listed, .answered, .opened (.text "7"), .failed (.api (.int 410) .null),
        .listed, .answered, .opened (.text "9"), .sawStop, .waited 5000000, .sawStop] := by
  obtain ⟨_, rfl, second⟩ := run.exists_tail ended (.refused rfl rfl rfl rfl)
  obtain ⟨_, rfl, third⟩ := second.exists_tail ended (.lists rfl rfl rfl rfl)
  obtain ⟨_, rfl, fourth⟩ := third.exists_tail ended (.opens rfl rfl rfl)
  obtain ⟨_, rfl, fifth⟩ := fourth.exists_tail ended (.rejected rfl rfl (.told rfl rfl))
  obtain ⟨_, rfl, sixth⟩ := fifth.exists_tail ended (.lists rfl rfl rfl rfl)
  obtain ⟨_, rfl, seventh⟩ := sixth.exists_tail ended (.opensLast rfl rfl rfl)
  obtain ⟨_, rfl, last⟩ := seventh.exists_tail ended (.ends rfl rfl)
  cases last with
  | refl => rfl
  | head turn => exact absurd ⟨_, rfl⟩ turn.not_ended

end Sample

/-- A list fails, the first stream has expired, and the next runs out. -/
theorem retries_disciplined_sample :
    Sample.settings.DelayIs 5000000 ∧
      (∀ f, .error f ∈ Sample.answers → f.isInterruption = false) ∧
      (∀ items ∈ Sample.streams, Endures items) ∧
      ∃ last,
        Retries 5000000 ⟨.listing, start Sample.settings .empty false, Sample.streams,
          Sample.answers⟩
          [.listed, .failed (.transport "connection refused"), .waited 5000000,
            .listed, .answered, .opened (.text "7"), .failed (.api (.int 410) .null),
            .listed, .answered, .opened (.text "9"), .sawStop, .waited 5000000, .sawStop] last ∧
        loop (start Sample.settings .empty false) Sample.streams Sample.answers =
          ⟨.ok (), last.watch, last.streams⟩ := by
  have delay : Sample.settings.DelayIs 5000000 := rfl
  have hanswers : ∀ f, .error f ∈ Sample.answers → f.isInterruption = false := by
    simp [Sample.answers, Fault.isInterruption]
  have hstreams : ∀ items ∈ Sample.streams, Endures items := by
    simp [Sample.streams, Endures]
  obtain ⟨deeds, last, retries, ended⟩ :=
    retries_disciplined delay .empty false hanswers hstreams
  obtain rfl := Sample.deeds_eq retries.run ⟨_, retries.ended⟩
  exact ⟨delay, hanswers, hstreams, last, retries, ended⟩

end Moment

end NodeRelief.Watch
