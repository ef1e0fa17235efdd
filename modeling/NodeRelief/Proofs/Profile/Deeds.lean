import NodeRelief.Proofs.Fault
import NodeRelief.Proofs.Profile.Moment

/-!
# The deeds of a watch

What a watch does from each moment to the next, one rule for each way that its loop goes on. The rules
tell more than the steps that the watch records: what it takes in, what it fails with, and that it sees
the stop. Each of them leads to the moment that the loop comes to, and every run comes to its end.
-/

namespace NodeRelief

/-- Whether the delay between two attempts is so many microseconds, which a wait can last. Delays beyond the
longest wait that the platform takes, at which a wait fails, are left out. -/
def WatchSettings.DelayIs (settings : WatchSettings) (us : Int) : Prop :=
  settings.retryDelay.asNumber.bind Seconds.micros = .ok us

namespace Watch

open Document (part)

/-- What a watch does, as far as retrying goes. -/
inductive Deed where
  | listed
  /-- The list is taken in and its version is known. -/
  | answered
  | opened (version : Document)
  | applied (event : Document)
  | failed (f : Fault)
  /-- It looked whether it is to stop, and it is. -/
  | sawStop
  | waited (micros : Int)

namespace Deed

/-- Whether the API is called. -/
def isCall : Deed → Bool
  | .listed | .opened _ => true
  | _ => false

/-- Whether the watch records it among its steps. -/
def isStep : Deed → Bool
  | .listed | .opened _ | .waited _ => true
  | _ => false

def ofStep? : WatchStep → Option Deed
  | .listed _ _ => some .listed
  | .opened version _ _ => some (.opened version)
  | .closed _ => none
  | .waited us => some (.waited us)

/-- Whether an attempt goes on with it. -/
inductive Continues : Deed → Prop
  | answered : Continues .answered
  | opened (version : Document) : Continues (.opened version)
  | applied (event : Document) : Continues (.applied event)

/-- What is waited after a fault. -/
def pause (us : Int) (f : Fault) : List Deed := if isExpired f then [] else [.waited us]

def failing (us : Int) (f : Fault) : List Deed := .failed f :: pause us f

theorem find?_isCall_pause (us : Int) (f : Fault) : (pause us f).find? isCall = none := by
  rw [pause]
  split <;> rfl

@[simp] theorem mem_failing_iff {us : Int} {f : Fault} {d : Deed} :
    d ∈ failing us f ↔ d = .failed f ∨ isExpired f = false ∧ d = .waited us := by
  rw [failing, pause]
  split <;> simp_all

@[simp] theorem filter_isStep_failing (us : Int) (f : Fault) :
    (failing us f).filter isStep = pause us f := by
  rw [failing, pause]
  split <;> rfl

end Deed

/-- The watch once a fault has been waited for. -/
def pausing (us : Int) (f : Fault) (w : Watch) : Watch :=
  if isExpired f then w else w.step (.waited us)

/-- The watch once an event has been handed on. -/
def apply (kind d : Document) (w : Watch) : Watch :=
  { w with feed := w.feed.apply (.ofText kind) (.document d) }

def listing (w : Watch) : Watch := w.step (.listed w.settings.callTimeout w.store)

/-- The deeds that a watch has recorded. -/
def recorded (w : Watch) : List Deed := w.steps.filterMap Deed.ofStep?

section

variable (us : Int) (f : Fault) (w : Watch)

@[simp] theorem pausing_settings : (w.pausing us f).settings = w.settings := by
  rw [pausing]
  split <;> rfl

@[simp] theorem pausing_synced : (w.pausing us f).synced = w.synced := by
  rw [pausing]
  split <;> rfl

@[simp] theorem recorded_step (s : WatchStep) :
    (w.step s).recorded = w.recorded ++ (Deed.ofStep? s).toList := by
  rw [recorded, step, List.filterMap_append, recorded]
  cases s <;> rfl

@[simp] theorem recorded_pausing : (w.pausing us f).recorded = w.recorded ++ Deed.pause us f := by
  rw [pausing, Deed.pause]
  split
  · exact (List.append_nil _).symm
  · exact recorded_step ..

@[simp] theorem recorded_listing : w.listing.recorded = w.recorded ++ [.listed] := recorded_step ..

@[simp] theorem recorded_opening (version : Document) :
    (w.opening version).recorded = w.recorded ++ [.opened version] := recorded_step ..

@[simp] theorem recorded_stop : w.stop.recorded = w.recorded := rfl

@[simp] theorem recorded_apply (kind d : Document) : (w.apply kind d).recorded = w.recorded := rfl

/-- What a list brings is not recorded. -/
@[simp] theorem recorded_update (feed : Feed) (synced : Bool) :
    { w with feed, synced }.recorded = w.recorded := rfl

end

/-! ## What comes of answers and events -/

/-- Whether an event is handed on to the store. -/
structure Hands (event kind d : Document) : Prop where
  type : part "type" event = .ok kind
  object : part "object" event = .ok d
  noError : kind ≠ .text "ERROR"

/-- Whether an event is a fault, or has no fields that could be read. -/
inductive Rejects (event : Document) : Fault → Prop
  | shapeless {f : Fault} (type : part "type" event = .error f) : Rejects event f
  | told {d : Document} (type : part "type" event = .ok (.text "ERROR"))
      (object : part "object" event = .ok d) : Rejects event (errorOf d)

/-- Whether the answer or the item that comes next tells that the version has expired. -/
inductive Moment.Expires (m : Moment) : Prop
  | listed {status reason : Document} {rest : List (Except Fault Document)}
      (stage : m.stage = .listing) (answers : m.answers = .error (.api status reason) :: rest)
      (gone : status.agrees (.int 410) = true) : Expires m
  | streamed {version status reason : Document} {items : List StreamItem}
      (stage : m.stage = .reading version (.broken (.api status reason) :: items))
      (gone : status.agrees (.int 410) = true) : Expires m
  | told {version event code : Document} {stops : Bool} {items : List StreamItem}
      {fields : List (String × Document)}
      (stage : m.stage = .reading version (.event event stops :: items))
      (type : part "type" event = .ok (.text "ERROR"))
      (object : part "object" event = .ok (.object fields))
      (hcode : Document.field? "code" fields = some code) (gone : code.agrees (.int 410) = true) :
      Expires m

theorem isExpired_iff {f : Fault} :
    isExpired f = true ↔
      ∃ status reason, f = .api status reason ∧ status.agrees (.int 410) = true := by
  cases f <;> simp [isExpired]

/-- Whether a fault neither ends the watch nor tells of an expired version, as one for the shape of a
document does not. -/
structure Shapeless (f : Fault) : Prop where
  endures : f.isInterruption = false
  unexpired : isExpired f = false

theorem Shapeless.of_part {name : String} {d : Document} {f : Fault} (h : part name d = .error f) :
    Shapeless f := by
  unfold part at h
  split at h
  · cases h
  · cases h
  · cases h
    exact ⟨rfl, rfl⟩

theorem Shapeless.of_versionOf {d : Document} {f : Fault} (h : versionOf d = .error f) :
    Shapeless f := by
  rw [versionOf, Fault.bind_eq_error_iff] at h
  rcases h with metadata | ⟨m, -, version⟩
  · exact .of_part metadata
  · exact .of_part version

theorem Shapeless.of_nextVersion {version d : Document} {f : Fault}
    (h : nextVersion version d = .error f) : Shapeless f := by
  unfold nextVersion at h
  split at h
  · exact .of_versionOf (Fault.map_eq_error_iff.mp h)
  · cases h

theorem Shapeless.of_elements {d : Document} {f : Fault} (h : d.elements = .error f) :
    Shapeless f := by
  unfold Document.elements at h
  split at h <;> cases h
  exact ⟨rfl, rfl⟩

theorem Shapeless.of_takeList {d : Document} {w w' : Watch} {f : Fault}
    (h : takeList (.ok d) w = (.error f, w')) : Shapeless f := by
  unfold takeList at h
  dsimp only at h
  split at h
  · next hitems =>
    cases h
    exact .of_part hitems
  · next items hitems =>
    split at h
    · next hresync =>
      cases h
      exact .of_elements (Fault.map_eq_error_iff.mp hresync)
    · exact .of_versionOf (Prod.ext_iff.mp h).1

/-- A list changes nothing but the store. -/
theorem relist_watch (answer : Except Fault Document) (w : Watch) :
    ∃ feed, (relist answer w).2 = { w.listing with feed } := by
  unfold relist takeList
  split
  · exact ⟨_, rfl⟩
  · split
    · exact ⟨_, rfl⟩
    · split <;> exact ⟨_, rfl⟩

theorem relist_emptyList (w : Watch) :
    ∃ version feed, relist (.ok emptyList) w = (.ok version, { w.listing with feed }) :=
  ⟨_, _, rfl⟩

/-- A list fails with what the script has for it, or for the shape of its answer. -/
theorem eq_error_or_shapeless {answer : Except Fault Document} {w w' : Watch} {f : Fault}
    (h : relist answer w = (.error f, w')) :
    answer = .error f ∨ (∃ d, answer = .ok d) ∧ Shapeless f := by
  cases answer with
  | error g =>
      obtain rfl : g = f := Except.error.inj (Prod.ext_iff.mp h).1
      exact .inl rfl
  | ok d => exact .inr ⟨⟨d, rfl⟩, .of_takeList h⟩

theorem isExpired_errorOf {d : Document} :
    isExpired (errorOf d) = true ↔ ∃ fields code, d = .object fields ∧
      Document.field? "code" fields = some code ∧ code.agrees (.int 410) = true := by
  have unknown : Document.agrees (.int 500) (.int 410) = false := by
    simp [Document.agrees, Document.canonical]
  cases d with
  | object fields =>
      cases hcode : Document.field? "code" fields <;> simp [errorOf, isExpired, hcode, unknown]
  | _ => simp [errorOf, isExpired, Document.field?, unknown]

/-! ### Events -/

section

variable {event kind kind' d d' : Document} {f g : Fault}

theorem Hands.onEvent (h : Hands event kind d) (version : Document) (w : Watch) :
    onEvent event version w = (nextVersion version d, w.apply kind d) := by
  have noError := h.noError
  simp only [Watch.onEvent, h.type, h.object, apply]

theorem Rejects.onEvent (h : Rejects event f) (version : Document) (w : Watch) :
    onEvent event version w = (.error f, w) := by
  cases h with
  | shapeless type => simp only [Watch.onEvent, type]
  | told type object => simp only [Watch.onEvent, type, object]

theorem Rejects.endures (h : Rejects event f) : f.isInterruption = false := by
  cases h with
  | shapeless type => exact (Shapeless.of_part type).endures
  | told => rfl

theorem Rejects.isExpired_iff (h : Rejects event f) :
    isExpired f = true ↔ ∃ fields code, part "type" event = .ok (.text "ERROR") ∧
      part "object" event = .ok (.object fields) ∧ Document.field? "code" fields = some code ∧
      code.agrees (.int 410) = true := by
  cases h with
  | shapeless type => simp [(Shapeless.of_part type).unexpired, type]
  | told type object => simp [isExpired_errorOf, type, object]

theorem Rejects.unique (h : Rejects event f) (h' : Rejects event g) : f = g := by
  cases h with
  | shapeless type => cases h' with
    | shapeless type' => exact Except.error.inj (type.symm.trans type')
    | told type' => cases type.symm.trans type'
  | told type object => cases h' with
    | shapeless type' => cases type.symm.trans type'
    | told _ object' => rw [Except.ok.inj (object.symm.trans object')]

theorem Hands.not_rejects (h : Hands event kind d) : ¬ Rejects event f := by
  rintro (type | ⟨type, -⟩)
  · cases h.type.symm.trans type
  · exact h.noError (Except.ok.inj (h.type.symm.trans type))

theorem Hands.unique (h : Hands event kind d) (h' : Hands event kind' d') : kind = kind' ∧ d = d' :=
  ⟨Except.ok.inj (h.type.symm.trans h'.type), Except.ok.inj (h.object.symm.trans h'.object)⟩

/-- An event has both of its fields, absent ones as `null`, or none at all. -/
theorem rejects_or_hands (event : Document) :
    (∃ f, Rejects event f) ∨ ∃ kind d, Hands event kind d := by
  cases htype : part "type" event with
  | error f => exact .inl ⟨f, .shapeless htype⟩
  | ok kind =>
      obtain ⟨d, hobject⟩ : ∃ d, part "object" event = .ok d := by
        unfold part at *
        split at htype
        · exact ⟨_, rfl⟩
        · exact ⟨_, rfl⟩
        · cases htype
      by_cases herror : kind = .text "ERROR"
      · subst herror
        exact .inl ⟨_, .told htype hobject⟩
      · exact .inr ⟨kind, d, htype, hobject, herror⟩

end

/-! ## The rules -/

namespace Moment

/-- What a watch does from a moment to the next, and where it is then. It waits so many microseconds
between two attempts, and no fault ends it. -/
inductive Turn (us : Int) (m : Moment) : List Deed → Moment → Prop
  | ends (stage : m.stage = .listing) (stopped : m.watch.stopped = true) :
      Turn us m [.sawStop] { m with stage := .ended (.ok ()) }
  /-- Without an answer left, the watch is asked to stop while it lists. -/
  | listsLast {version : Document} {feed : Feed} (stage : m.stage = .listing)
      (running : m.watch.stopped = false) (answers : m.answers = [])
      (lists : relist (.ok emptyList) m.watch.stop =
        (.ok version, { m.watch.stop.listing with feed })) :
      Turn us m [.listed, .answered, .sawStop, .waited us, .sawStop]
        { m with
          stage := .ended (.ok ())
          watch := { m.watch.stop.listing with feed, synced := true }.step (.waited us) }
  | lists {answer : Except Fault Document} {rest : List (Except Fault Document)}
      {version : Document} {feed : Feed} (stage : m.stage = .listing)
      (running : m.watch.stopped = false) (answers : m.answers = answer :: rest)
      (lists : relist answer m.watch = (.ok version, { m.watch.listing with feed })) :
      Turn us m [.listed, .answered]
        { m with
          stage := .opening version
          watch := { m.watch.listing with feed, synced := true }
          answers := rest }
  | refused {answer : Except Fault Document} {rest : List (Except Fault Document)} {f : Fault}
      {feed : Feed} (stage : m.stage = .listing) (running : m.watch.stopped = false)
      (answers : m.answers = answer :: rest)
      (fails : relist answer m.watch = (.error f, { m.watch.listing with feed })) :
      Turn us m (.listed :: Deed.failing us f)
        { m with
          stage := .listing
          watch := { m.watch.listing with feed }.pausing us f
          answers := rest }
  | rests {version : Document} (stage : m.stage = .opening version)
      (stopped : m.watch.stopped = true) :
      Turn us m [.sawStop, .waited us]
        { m with stage := .listing, watch := m.watch.step (.waited us) }
  | opens {version : Document} {stream : List StreamItem} {rest : List (List StreamItem)}
      (stage : m.stage = .opening version) (running : m.watch.stopped = false)
      (streams : m.streams = stream :: rest) :
      Turn us m [.opened version]
        { m with
          stage := .reading version stream
          watch := m.watch.opening version
          streams := rest }
  /-- Without a stream left, the watch is asked to stop while it opens one. -/
  | opensLast {version : Document} (stage : m.stage = .opening version)
      (running : m.watch.stopped = false) (streams : m.streams = []) :
      Turn us m [.opened version, .sawStop, .waited us]
        { m with stage := .listing, watch := (m.watch.opening version).stop.step (.waited us) }
  | closed {version : Document} (stage : m.stage = .reading version []) :
      Turn us m [] { m with stage := .opening version }
  | broken {version : Document} {f : Fault} {items : List StreamItem}
      (stage : m.stage = .reading version (.broken f :: items)) :
      Turn us m (Deed.failing us f) { m with stage := .listing, watch := m.watch.pausing us f }
  | dropped {version event : Document} {stops : Bool} {items : List StreamItem}
      (stage : m.stage = .reading version (.event event stops :: items))
      (stopped : (stops || m.watch.stopped) = true) :
      Turn us m [.sawStop, .waited us]
        { m with
          stage := .listing
          watch := (m.watch.stop.step (.closed m.watch.store)).step (.waited us) }
  | rejected {version event : Document} {items : List StreamItem} {f : Fault}
      (stage : m.stage = .reading version (.event event false :: items))
      (running : m.watch.stopped = false) (rejects : Rejects event f) :
      Turn us m (Deed.failing us f) { m with stage := .listing, watch := m.watch.pausing us f }
  | applied {version event kind d version' : Document} {items : List StreamItem}
      (stage : m.stage = .reading version (.event event false :: items))
      (running : m.watch.stopped = false) (hands : Hands event kind d)
      (next : nextVersion version d = .ok version') :
      Turn us m [.applied event]
        { m with stage := .reading version' items, watch := m.watch.apply kind d }
  | misread {version event kind d : Document} {items : List StreamItem} {f : Fault}
      (stage : m.stage = .reading version (.event event false :: items))
      (running : m.watch.stopped = false) (hands : Hands event kind d)
      (fails : nextVersion version d = .error f) :
      Turn us m (.applied event :: Deed.failing us f)
        { m with stage := .listing, watch := (m.watch.apply kind d).pausing us f }

/-- Any number of turns, with what is done in them. -/
inductive Run (us : Int) : Moment → List Deed → Moment → Prop
  | refl (m : Moment) : Run us m [] m
  | head {m m' m'' : Moment} {deeds rest : List Deed} (turn : Turn us m deeds m')
      (run : Run us m' rest m'') : Run us m (deeds ++ rest) m''

/-- Whether a stream breaks with nothing that ends the watch. -/
def Endures (items : List StreamItem) : Prop := ∀ f, .broken f ∈ items → f.isInterruption = false

/-- Whether the delay can be waited, and nothing left of the script ends the watch but a stop. -/
structure Ready (us : Int) (m : Moment) : Prop where
  delay : m.watch.settings.DelayIs us
  answers : ∀ f, .error f ∈ m.answers → f.isInterruption = false
  streams : ∀ items ∈ m.streams, Endures items
  reading : ∀ version items, m.stage = .reading version items → Endures items
  ended : m.Ended → m.stage = .ended (.ok ()) ∧ m.watch.stopped = true

/-! ### The rules and the next moment -/

section

variable {us : Int} {w : Watch} {f : Fault} {streams : List (List StreamItem)}
  {answers : List (Except Fault Document)}

theorem follow_of_stopped (stopped : w.stopped = true) (version : Document) :
    follow version w streams = ⟨.ok (), w, streams⟩ := by
  cases streams <;> rw [follow, if_pos stopped]

theorem afterWait_of_delayIs (delay : w.settings.DelayIs us) :
    afterWait w streams = ⟨.ok (), w.step (.waited us), streams⟩ := by
  rw [afterWait, wait, delay]

theorem round_emptyList (delay : w.settings.DelayIs us) {version : Document} {feed : Feed}
    (lists : relist (.ok emptyList) w.stop = (.ok version, { w.stop.listing with feed })) :
    round (.ok emptyList) streams w.stop =
      ⟨.ok (), { w.stop.listing with feed, synced := true }.step (.waited us), streams⟩ := by
  rw [round_eq_settled, listAndFollow, lists]
  dsimp only
  rw [follow_of_stopped rfl, settled]
  exact afterWait_of_delayIs delay

theorem after_rest (delay : w.settings.DelayIs us) :
    after answers (settled ⟨.ok (), w, streams⟩) =
      ⟨.listing, w.step (.waited us), streams, answers⟩ := by
  rw [settled, afterWait_of_delayIs delay, after]

theorem after_failure (delay : w.settings.DelayIs us) (endures : f.isInterruption = false) :
    after answers (settled ⟨.error f, w, streams⟩) =
      ⟨.listing, w.pausing us f, streams, answers⟩ := by
  simp only [settled, endures, Bool.false_eq_true, if_false, pausing]
  split
  · rfl
  · rw [afterWait_of_delayIs delay, after]

end

section

variable {m : Moment} {version event : Document} {items : List StreamItem}

theorem next_of_listing (stage : m.stage = .listing) (running : m.watch.stopped = false) :
    m.next = list m.watch m.streams m.answers := by
  rcases m with ⟨_, w, streams, answers⟩
  subst stage
  exact if_neg (Bool.eq_false_iff.mp running)

theorem next_of_opening (stage : m.stage = .opening version) (running : m.watch.stopped = false) :
    m.next = openStream version m.watch m.answers m.streams := by
  rcases m with ⟨_, w, streams, answers⟩
  subst stage
  exact if_neg (Bool.eq_false_iff.mp running)

theorem next_of_opening_stopped (stage : m.stage = .opening version)
    (stopped : m.watch.stopped = true) :
    m.next = after m.answers (settled ⟨.ok (), m.watch, m.streams⟩) := by
  rcases m with ⟨_, w, streams, answers⟩
  subst stage
  exact if_pos stopped

theorem next_of_broken {f : Fault} (stage : m.stage = .reading version (.broken f :: items)) :
    m.next = after m.answers (settled ⟨.error f, m.watch, m.streams⟩) := by
  rcases m with ⟨_, w, streams, answers⟩
  subst stage
  rfl

theorem next_of_event (stage : m.stage = .reading version (.event event false :: items))
    (running : m.watch.stopped = false) :
    m.next = take event version items m.watch m.streams m.answers := by
  rcases m with ⟨_, w, streams, answers⟩
  subst stage
  exact if_neg (Bool.eq_false_iff.mp running)

theorem next_of_dropped {stops : Bool}
    (stage : m.stage = .reading version (.event event stops :: items))
    (stopped : (stops || m.watch.stopped) = true) :
    m.next = after m.answers
      (settled ⟨.ok (), m.watch.stop.step (.closed m.watch.store), m.streams⟩) := by
  rcases m with ⟨_, ⟨settings, feed, stopped', synced, steps⟩, streams, answers⟩
  subst stage
  cases stops with
  | true => rfl
  | false =>
      obtain rfl : stopped' = true := stopped
      rfl

end

variable {us : Int} {m m' m'' : Moment} {deeds deeds' : List Deed}

theorem Ready.endures_of_relist (ready : Ready us m) {answer : Except Fault Document}
    {rest : List (Except Fault Document)} {f : Fault} {w : Watch}
    (answers : m.answers = answer :: rest) (fails : relist answer m.watch = (.error f, w)) :
    f.isInterruption = false := by
  rcases eq_error_or_shapeless fails with rfl | ⟨-, shapeless⟩
  · exact ready.answers f (by simp [answers])
  · exact shapeless.endures

/-- The rules tell what the loop does. -/
theorem Turn.next_eq (h : Turn us m deeds m') (ready : Ready us m) : m.next = m' := by
  cases h with
  | ends stage stopped =>
      rcases m with ⟨_, w, streams, answers⟩
      subst stage
      exact if_pos stopped
  | listsLast stage running answers lists =>
      rw [next_of_listing stage running, answers, list, round_emptyList ready.delay lists]
  | lists stage running answers lists =>
      rw [next_of_listing stage running, answers, list, lists]
  | refused stage running answers fails =>
      rw [next_of_listing stage running, answers, list, fails]
      exact after_failure ready.delay (ready.endures_of_relist answers fails)
  | rests stage stopped =>
      rw [next_of_opening_stopped stage stopped]
      exact after_rest ready.delay
  | opens stage running streams => rw [next_of_opening stage running, streams, openStream]
  | opensLast stage running streams =>
      rw [next_of_opening stage running, streams, openStream]
      exact after_rest ready.delay
  | closed stage =>
      rcases m with ⟨_, w, streams, answers⟩
      subst stage
      rfl
  | broken stage =>
      rw [next_of_broken stage]
      exact after_failure ready.delay (ready.reading _ _ stage _ (List.mem_cons_self ..))
  | dropped stage stopped =>
      rw [next_of_dropped stage stopped]
      exact after_rest ready.delay
  | rejected stage running rejects =>
      rw [next_of_event stage running, take, rejects.onEvent]
      exact after_failure ready.delay rejects.endures
  | applied stage running hands hnext =>
      rw [next_of_event stage running, take, hands.onEvent, hnext]
  | misread stage running hands fails =>
      rw [next_of_event stage running, take, hands.onEvent, fails]
      exact after_failure ready.delay (Shapeless.of_nextVersion fails).endures

/-! ### Turn after turn -/

theorem exists_turn (us : Int) (goesOn : ¬ m.Ended) : ∃ deeds m', Turn us m deeds m' := by
  rcases m with
    ⟨_ | version | ⟨version, _ | ⟨⟨event, stops⟩ | f, items⟩⟩ | outcome, w, streams, answers⟩
  · by_cases hw : w.stopped = true
    · exact ⟨_, _, .ends rfl hw⟩
    · rw [Bool.not_eq_true] at hw
      cases answers with
      | nil =>
          obtain ⟨version, feed, lists⟩ := relist_emptyList w.stop
          exact ⟨_, _, .listsLast rfl hw rfl lists⟩
      | cons answer rest =>
          obtain ⟨feed, hfeed⟩ := relist_watch answer w
          rcases hlist : relist answer w with ⟨f | version, w'⟩
          · rw [hlist] at hfeed
            exact ⟨_, _, .refused rfl hw rfl (hlist.trans (congrArg _ hfeed))⟩
          · rw [hlist] at hfeed
            exact ⟨_, _, .lists rfl hw rfl (hlist.trans (congrArg _ hfeed))⟩
  · by_cases hw : w.stopped = true
    · exact ⟨_, _, .rests rfl hw⟩
    · rw [Bool.not_eq_true] at hw
      cases streams with
      | nil => exact ⟨_, _, .opensLast rfl hw rfl⟩
      | cons stream rest => exact ⟨_, _, .opens rfl hw rfl⟩
  · exact ⟨_, _, .closed rfl⟩
  · by_cases hstops : (stops || w.stopped) = true
    · exact ⟨_, _, .dropped rfl hstops⟩
    · obtain ⟨rfl, hw⟩ : stops = false ∧ w.stopped = false := by simpa using hstops
      rcases rejects_or_hands event with ⟨f, rejects⟩ | ⟨kind, d, hands⟩
      · exact ⟨_, _, .rejected rfl hw rejects⟩
      · cases hversion : nextVersion version d with
        | error f => exact ⟨_, _, .misread rfl hw hands hversion⟩
        | ok version' => exact ⟨_, _, .applied rfl hw hands hversion⟩
  · exact ⟨_, _, .broken rfl⟩
  · exact absurd ⟨outcome, rfl⟩ goesOn

theorem Turn.settings (h : Turn us m deeds m') : m'.watch.settings = m.watch.settings := by
  cases h with
  | refused | broken | rejected | misread => exact pausing_settings ..
  | _ => rfl

theorem Turn.ready (h : Turn us m deeds m') (ready : Ready us m) : Ready us m' where
  delay := by
    rw [h.settings]
    exact ready.delay
  answers f hf := by
    cases h with
    | lists _ _ answers | refused _ _ answers =>
        exact ready.answers f (answers ▸ List.mem_cons_of_mem _ hf)
    | _ => exact ready.answers f hf
  streams items hitems := by
    cases h with
    | opens _ _ streams => exact ready.streams items (streams ▸ List.mem_cons_of_mem _ hitems)
    | _ => exact ready.streams items hitems
  reading version items stage f hf := by
    cases h with
    | opens _ _ streams =>
        obtain ⟨rfl, rfl⟩ := Stage.reading.inj stage
        exact ready.streams _ (streams ▸ List.mem_cons_self ..) f hf
    | applied before =>
        obtain ⟨rfl, rfl⟩ := Stage.reading.inj stage
        exact ready.reading _ _ before f (List.mem_cons_of_mem _ hf)
    | _ => cases stage
  ended := by
    rintro ⟨outcome, stage⟩
    cases h with
    | ends _ stopped => exact ⟨rfl, stopped⟩
    | listsLast => exact ⟨rfl, rfl⟩
    | _ => cases stage

theorem Run.ready (h : Run us m deeds m') (ready : Ready us m) : Ready us m' := by
  induction h with
  | refl => exact ready
  | head turn _ ih => exact ih (turn.ready ready)

/-- The moments of a run are those of the loop. -/
theorem Run.finish (h : Run us m deeds m') (ready : Ready us m) : m'.finish = m.finish := by
  induction h with
  | refl => rfl
  | head turn _ ih => rw [ih (turn.ready ready), ← turn.next_eq ready, finish_next]

theorem exists_run (ready : Ready us m) : ∃ deeds last, Run us m deeds last ∧ last.Ended := by
  obtain ⟨n, hn⟩ := exists_ended m
  induction n generalizing m with
  | zero => exact ⟨[], m, .refl m, hn⟩
  | succ n ih =>
      by_cases ended : m.Ended
      · exact ⟨[], m, .refl m, ended⟩
      · obtain ⟨deeds, m', turn⟩ := exists_turn us ended
        rw [Function.iterate_succ_apply, turn.next_eq ready] at hn
        obtain ⟨rest, last, run, hlast⟩ := ih (turn.ready ready) hn
        exact ⟨deeds ++ rest, last, .head turn run, hlast⟩

/-! ### No other run -/

/-- What is done next, and where that leads, is settled by the moment. Only for an event that is taken in
does it take more than the stage to tell the rules apart. -/
theorem Turn.unique (h : Turn us m deeds m') (h' : Turn us m deeds' m'') :
    deeds = deeds' ∧ m' = m'' := by
  cases h with
  | rejected stage running rejects =>
      cases h' with
      | rejected stage' _ rejects' =>
          cases stage.symm.trans stage'
          obtain rfl := rejects.unique rejects'
          exact ⟨rfl, rfl⟩
      | applied stage' _ hands | misread stage' _ hands =>
          cases stage.symm.trans stage'
          exact absurd rejects hands.not_rejects
      | _ => simp_all
  | applied stage running hands next =>
      cases h' with
      | rejected stage' _ rejects =>
          cases stage.symm.trans stage'
          exact absurd rejects hands.not_rejects
      | applied stage' _ hands' next' =>
          cases stage.symm.trans stage'
          obtain ⟨rfl, rfl⟩ := hands.unique hands'
          obtain rfl := Except.ok.inj (next.symm.trans next')
          exact ⟨rfl, rfl⟩
      | misread stage' _ hands' fails =>
          cases stage.symm.trans stage'
          obtain ⟨rfl, rfl⟩ := hands.unique hands'
          cases next.symm.trans fails
      | _ => simp_all
  | misread stage running hands fails =>
      cases h' with
      | rejected stage' _ rejects =>
          cases stage.symm.trans stage'
          exact absurd rejects hands.not_rejects
      | applied stage' _ hands' next =>
          cases stage.symm.trans stage'
          obtain ⟨rfl, rfl⟩ := hands.unique hands'
          cases next.symm.trans fails
      | misread stage' _ hands' fails' =>
          cases stage.symm.trans stage'
          obtain ⟨rfl, rfl⟩ := hands.unique hands'
          obtain rfl := Except.error.inj (fails.symm.trans fails')
          exact ⟨rfl, rfl⟩
      | _ => simp_all
  | _ => cases h' <;> first | exact ⟨rfl, rfl⟩ | simp_all

theorem Turn.not_ended (h : Turn us m deeds m') : ¬ m.Ended := by
  rintro ⟨outcome, ended⟩
  cases h <;> simp_all

/-- A run to the end begins with the turn that its first moment takes. -/
theorem Run.exists_tail (h : Run us m deeds m'') (ended : m''.Ended) (turn : Turn us m deeds' m') :
    ∃ rest, deeds = deeds' ++ rest ∧ Run us m' rest m'' := by
  cases h with
  | refl => exact absurd ended turn.not_ended
  | head turn' run =>
      obtain ⟨rfl, rfl⟩ := turn'.unique turn
      exact ⟨_, rfl, run⟩

end Moment

end Watch

end NodeRelief
