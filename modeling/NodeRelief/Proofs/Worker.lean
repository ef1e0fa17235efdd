import NodeRelief.Proofs.Time.Seconds
import NodeRelief.Worker

/-! # The course of a worker

What a worker does, from the rounds it meets: which of them it begins, under which numbers, and how long
it waits behind each. What it writes to the log does not bear on that. A wait that is longer than any the
platform takes ends it. -/

namespace NodeRelief

/-! ## Rounds -/

namespace Round

/-- A stop is asked for while the round's cycle runs or during the wait after it. -/
def stops (r : Round) : Bool := r.stopsInCycle || r.stopsInWait

/-- The cycle ends with a result or with an error that is caught. -/
def Unbroken (r : Round) : Prop := ∀ f, r.outcome = .error f → f.isInterruption = false

/-- What the cycle asks for, or the backoff if it failed. -/
def delay (backoff : Duration) (r : Round) : Duration :=
  match r.outcome with
  | .ok result => result.requeueAfter
  | .error _ => backoff

/-- The wait behind the cycle returns: there is none, or it is not longer than the longest that is
taken. -/
def Returns (timer : Timer) (backoff : Duration) (r : Round) : Prop :=
  r.stopsInCycle = false → timer.longest.lt (Seconds.ofDuration (r.delay backoff)) = false

/-- The cycle and one wait, unless a stop was asked for before the cycle ended. -/
def steps (backoff : Duration) (number : ℕ) (r : Round) : List WorkerStep :=
  .cycle number false :: if r.stopsInCycle then [] else [.waited (.ofDuration (r.delay backoff))]

/-- The rounds that are begun: up to the first in which a stop is asked for, and none if one was asked
for before. -/
def begun (before : Bool) (rounds : List Round) : List Round :=
  if before then [] else rounds.take (rounds.findIdx stops + 1)

@[simp] theorem begun_true (rounds : List Round) : begun true rounds = [] := rfl

@[simp] theorem begun_nil (before : Bool) : begun before [] = [] := by
  cases before <;> rfl

theorem begun_cons (r : Round) (rest : List Round) :
    begun false (r :: rest) = r :: begun r.stops rest := by
  cases h : r.stops <;> simp [begun, List.findIdx_cons, h]

theorem begun_eq_self {rounds : List Round} (stay : ∀ r ∈ rounds, r.stops = false) :
    begun false rounds = rounds := by
  induction rounds with
  | nil => rfl
  | cons r rest ih =>
      rw [List.forall_mem_cons] at stay
      rw [begun_cons, stay.1, ih stay.2]

/-- What is done in rounds that are all begun, the first of them under a given number. -/
def course (backoff : Duration) (first : ℕ) (rounds : List Round) : List WorkerStep :=
  (rounds.zipIdx first).flatMap fun (r, number) => r.steps backoff number

@[simp] theorem course_nil (backoff : Duration) (first : ℕ) : course backoff first [] = [] := rfl

theorem course_cons (backoff : Duration) (first : ℕ) (r : Round) (rest : List Round) :
    course backoff first (r :: rest) = r.steps backoff first ++ course backoff (first + 1) rest := by
  simp [course, List.zipIdx_cons]

end Round

/-- Whether a cycle begins. -/
def WorkerStep.isCycle : WorkerStep → Bool
  | .cycle _ _ => true
  | _ => false

theorem Round.countP_course (backoff : Duration) (first : ℕ) (rounds : List Round) :
    (course backoff first rounds).countP WorkerStep.isCycle = rounds.length := by
  induction rounds generalizing first with
  | nil => rfl
  | cons r rest ih =>
      have one : (r.steps backoff first).countP WorkerStep.isCycle = 1 := by
        rw [steps]
        split <;> rfl
      rw [course_cons, List.countP_append, one, ih, List.length_cons, Nat.add_comm]

namespace Worker

open Round (begun course)

/-! ## The log -/

/-- Only the log is changed. -/
def OnlyLogs (f : Worker → Worker) : Prop := ∀ w, ∃ log, f w = { w with log }

theorem onlyLogs_id : OnlyLogs id := fun w => ⟨w.log, rfl⟩

theorem onlyLogs_write (l : Level) (line : Worker → String) : OnlyLogs fun w => w.write l (line w) :=
  fun _ => ⟨_, rfl⟩

theorem OnlyLogs.comp {f g : Worker → Worker} (hg : OnlyLogs g) (hf : OnlyLogs f) :
    OnlyLogs fun w => g (f w) := by
  intro w
  obtain ⟨log, told⟩ := hf w
  obtain ⟨log', told'⟩ := hg (f w)
  exact ⟨log', told'.trans (by rw [told])⟩

theorem onlyLogs_report (result : CycleResult) : OnlyLogs (report result) := by
  have error : OnlyLogs (reportError result) := by
    unfold reportError
    split
    · split
      · exact onlyLogs_id
      · exact onlyLogs_write _ _
    · exact onlyLogs_id
  have evicted : OnlyLogs (reportEvicted result) := by
    unfold reportEvicted
    split
    · exact onlyLogs_id
    · exact onlyLogs_write _ _
  have rateLimit : OnlyLogs (reportRateLimit result) := by
    unfold reportRateLimit
    split
    · exact onlyLogs_write _ _
    · exact onlyLogs_id
  exact rateLimit.comp (evicted.comp error)

/-! ## One round -/

section

variable {w : Worker} {r : Round}

theorem conclude_eq (unbroken : r.Unbroken) (w : Worker) :
    ∃ log, conclude w r.outcome = (.ok (r.delay w.backoff), { w with log }) := by
  rw [Round.delay]
  cases ended : r.outcome with
  | ok result =>
      obtain ⟨log, told⟩ := onlyLogs_report result w
      exact ⟨log, by rw [conclude, told]⟩
  | error f => exact ⟨_, by rw [conclude, if_neg (by simp [unbroken f ended])]; rfl⟩

/-- A round that is begun, before the wait behind it. -/
theorem runOnce_eq (running : w.stopped = false) (unbroken : r.Unbroken) :
    ∃ log, runOnce r w = (.ok (r.delay w.backoff),
      { w with
        stopped := r.stopsInCycle, cycles := w.cycles + 1
        steps := w.steps ++ [.cycle (w.cycles + 1) false], log }) := by
  obtain ⟨log, ended⟩ := conclude_eq unbroken (stopIf r.stopsInCycle w.beginCycle)
  refine ⟨log, ?_⟩
  rw [runOnce, ended]
  cases inCycle : r.stopsInCycle <;> simp [stopIf, stop, beginCycle, step, running]

/-- A round that is begun and the wait behind it. -/
theorem round_eq (running : w.stopped = false) (unbroken : r.Unbroken)
    (returns : r.Returns w.timer w.backoff) :
    ∃ w' log, runOnce r w = (.ok (r.delay w.backoff), w') ∧ wait r (r.delay w.backoff) w' =
      (.ok (), { w with
        stopped := r.stops, cycles := w.cycles + 1
        steps := w.steps ++ r.steps w.backoff (w.cycles + 1), log }) := by
  obtain ⟨log, ran⟩ := runOnce_eq running unbroken
  refine ⟨_, log, ran, ?_⟩
  cases inCycle : r.stopsInCycle with
  | true => simp [wait, Round.steps, Round.stops, inCycle]
  | false =>
      have taken := Timer.refusal?_eq_none_iff.mpr (returns inCycle)
      cases inWait : r.stopsInWait <;>
        simp [wait, taken, stopIf, stop, step, Round.steps, Round.stops, inCycle, inWait]

end

/-! ## The loop -/

variable {rounds : List Round}

theorem loop_of_stopped {w : Worker} (stopped : w.stopped = true) (rounds : List Round) :
    loop w rounds = (.ok (), w) := by
  cases rounds with
  | nil => rfl
  | cons r rest => rw [loop, if_pos stopped]

theorem loop_eq {w : Worker} (unbroken : ∀ r ∈ rounds, r.Unbroken)
    (returns : ∀ r ∈ begun w.stopped rounds, r.Returns w.timer w.backoff) :
    ∃ log, loop w rounds = (.ok (),
      { w with
        stopped := w.stopped || rounds.any Round.stops
        cycles := w.cycles + (begun w.stopped rounds).length
        steps := w.steps ++ course w.backoff (w.cycles + 1) (begun w.stopped rounds), log }) := by
  induction rounds generalizing w with
  | nil => exact ⟨w.log, by simp [loop]⟩
  | cons r rest ih =>
      cases running : w.stopped with
      | true =>
          refine ⟨w.log, ?_⟩
          rw [loop_of_stopped running, Round.begun_true, Round.course_nil, Bool.true_or,
            List.append_nil, List.length_nil, Nat.add_zero, ← running]
      | false =>
          rw [running, Round.begun_cons, List.forall_mem_cons] at returns
          rw [List.forall_mem_cons] at unbroken
          obtain ⟨w', log, ran, waited⟩ := round_eq running unbroken.1 returns.1
          obtain ⟨log', rest_eq⟩ := ih (w := { w with
            stopped := r.stops, cycles := w.cycles + 1
            steps := w.steps ++ r.steps w.backoff (w.cycles + 1), log }) unbroken.2 returns.2
          refine ⟨log', ?_⟩
          rw [loop, if_neg (by simp [running]), ran]
          dsimp only
          rw [waited]
          dsimp only
          rw [rest_eq, Round.begun_cons, Round.course_cons]
          simp [Nat.add_assoc, Nat.add_comm, Nat.add_left_comm]

/-- More rounds are met by the worker that the first ones leave. -/
theorem loop_append (w : Worker) (rounds more : List Round) :
    loop w (rounds ++ more) =
      match loop w rounds with
      | (.error f, w) => (.error f, w)
      | (.ok (), w) => loop w more := by
  induction rounds generalizing w with
  | nil => rfl
  | cons r rest ih =>
      cases running : w.stopped with
      | true =>
          rw [loop_of_stopped running, loop_of_stopped running]
          exact (loop_of_stopped running more).symm
      | false =>
          rw [List.cons_append, loop, loop, if_neg (by simp [running]), if_neg (by simp [running])]
          rcases runOnce r w with ⟨f | delay, w⟩
          · rfl
          · dsimp only
            rcases wait r delay w with ⟨f | _, w⟩
            · rfl
            · exact ih w

/-- A wait that is refused ends the loop behind its cycle. -/
theorem loop_of_refused {w : Worker} {r : Round} {f : Fault} (running : w.stopped = false)
    (unbroken : r.Unbroken) (stays : r.stopsInCycle = false)
    (refused : w.timer.refusal? (.ofDuration (r.delay w.backoff)) = some f) (rest : List Round) :
    ∃ log, loop w (r :: rest) = (.error f,
      { w with
        cycles := w.cycles + 1
        steps := w.steps ++ [.cycle (w.cycles + 1) false], log }) := by
  obtain ⟨log, ran⟩ := runOnce_eq running unbroken
  refine ⟨log, ?_⟩
  rw [loop, if_neg (by simp [running]), ran]
  simp [wait, stays, refused, running]

/-! ## The watch -/

/-- What is done before the loop. -/
def opening : Option Companion → List WorkerStep
  | some c => [.watchStarted, .syncAwaited c.limit]
  | none => []

/-- What is done behind the loop. -/
def closing (companion : Option Companion) (stopped : Bool) : List WorkerStep :=
  if companion.isSome && stopped then [.watchStopped] else []

theorem countP_opening (companion : Option Companion) :
    (opening companion).countP WorkerStep.isCycle = 0 := by
  cases companion <;> rfl

theorem countP_closing (companion : Option Companion) (stopped : Bool) :
    (closing companion stopped).countP WorkerStep.isCycle = 0 := by
  rw [closing]
  split <;> rfl

theorem startWatch_eq (companion : Option Companion) (w : Worker) :
    ∃ log, startWatch companion w = { w with steps := w.steps ++ opening companion, log } := by
  cases companion with
  | none => exact ⟨w.log, by simp [startWatch, opening]⟩
  | some c =>
      rw [startWatch, awaitSync]
      split
      · exact ⟨w.log, by simp [step, opening]⟩
      · exact ⟨_, by simp [step, write, opening]; rfl⟩

theorem endWatch_eq (companion : Option Companion) (w : Worker) :
    endWatch companion w = { w with steps := w.steps ++ closing companion w.stopped } := by
  rw [endWatch, closing]
  split
  · rfl
  · rw [List.append_nil]

/-! ## The whole course -/

theorem backoffOf_eq (c : Config) (given : Option Duration) :
    backoffOf c given = (given.filter (·.micros ≠ 0)).getD c.recheckInterval := by
  cases given with
  | none => rfl
  | some d =>
      rw [backoffOf]
      by_cases nothing : d.micros = 0 <;> simp [nothing, Option.filter]

theorem start_eq (companion : Option Companion) (w : Worker) (unbroken : ∀ r ∈ rounds, r.Unbroken)
    (returns : ∀ r ∈ begun w.stopped rounds, r.Returns w.timer w.backoff) :
    ∃ log, start companion rounds w = (.ok (),
      { w with
        stopped := w.stopped || rounds.any Round.stops
        cycles := w.cycles + (begun w.stopped rounds).length
        steps := w.steps ++ opening companion ++
          course w.backoff (w.cycles + 1) (begun w.stopped rounds) ++
          closing companion (w.stopped || rounds.any Round.stops), log }) := by
  obtain ⟨log, opened⟩ := startWatch_eq companion w
  obtain ⟨log', ran⟩ := loop_eq (w := { w with steps := w.steps ++ opening companion, log }) unbroken
    returns
  refine ⟨log', ?_⟩
  rw [start, opened, ran]
  dsimp only
  rw [endWatch_eq]

/-- After a stop was asked for, whatever rounds would come next make no difference. -/
theorem start_append {companion : Option Companion} {w w' : Worker}
    (started : start companion rounds w = (.ok (), w')) (stopped : w'.stopped = true)
    (more : List Round) : start companion (rounds ++ more) w = (.ok (), w') := by
  rw [start] at started ⊢
  rw [loop_append]
  rcases ran : loop (startWatch companion w) rounds with ⟨f | _, last⟩
  · rw [ran] at started
    cases started
  · rw [ran] at started
    dsimp only at started ⊢
    rw [endWatch_eq] at started
    obtain rfl := (Prod.mk.inj started).2
    rw [loop_of_stopped (w := last) stopped more]
    dsimp only
    rw [endWatch_eq]

/-- A wait that is too long ends the worker behind the cycle that asked for it, and the watch is not
stopped. -/
theorem start_of_refused {earlier : List Round} {r : Round} {f : Fault} {w : Worker}
    (companion : Option Companion) (running : w.stopped = false)
    (unbroken : ∀ r ∈ earlier, r.Unbroken) (stay : ∀ r ∈ earlier, r.stops = false)
    (returns : ∀ r ∈ earlier, r.Returns w.timer w.backoff) (last_unbroken : r.Unbroken)
    (stays : r.stopsInCycle = false)
    (refused : w.timer.refusal? (.ofDuration (r.delay w.backoff)) = some f) (rest : List Round) :
    ∃ w', start companion (earlier ++ r :: rest) w = (.error f, w') ∧ w'.stopped = false ∧
      w'.steps = w.steps ++ opening companion ++ course w.backoff (w.cycles + 1) earlier ++
        [.cycle (w.cycles + earlier.length + 1) false] := by
  obtain ⟨log, opened⟩ := startWatch_eq companion w
  obtain ⟨log', ran⟩ := loop_eq (w := { w with steps := w.steps ++ opening companion, log }) unbroken
    (by rwa [running, Round.begun_eq_self stay])
  have goes : earlier.any Round.stops = false := by simpa using stay
  simp only [running, goes, Bool.or_false, Round.begun_eq_self stay] at ran
  let reached : Worker := { w with
    stopped := false, cycles := w.cycles + earlier.length
    steps := w.steps ++ opening companion ++ course w.backoff (w.cycles + 1) earlier, log := log' }
  obtain ⟨log'', ended⟩ := loop_of_refused (w := reached) rfl last_unbroken stays refused rest
  have met : start companion (earlier ++ r :: rest) w = (.error f, { reached with
      cycles := reached.cycles + 1
      steps := reached.steps ++ [.cycle (reached.cycles + 1) false], log := log'' }) := by
    rw [start, opened, loop_append, running, ran]
    dsimp only
    rw [ended]
  exact ⟨_, met, rfl, rfl⟩

/-- A worker that is started begins the rounds up to the first in which a stop is asked for, none if
one was asked for before, and no error of a cycle ends it. Behind each cycle that was not stopped it
waits once, for as long as the cycle asks or for the backoff if it failed, as that is told in seconds:
to `2 ^ -53` of it, which up to `2 ^ 32` seconds is to the microsecond. The watch, if there is one, is
started once before all cycles and is stopped once behind them when a stop was asked for; then it makes
no difference what else would have come. All that holds as long as every wait returns, whatever the
longest wait of the platform is. -/
theorem start_course (c : Config) (given : Option Duration) (companion : Option Companion)
    (timer : Timer) (before : Bool) (unbroken : ∀ r ∈ rounds, r.Unbroken)
    (returns : ∀ r ∈ begun before rounds,
      r.Returns timer ((given.filter (·.micros ≠ 0)).getD c.recheckInterval)) :
    let w := stopIf before { create (backoffOf c given) with timer }
    let backoff := (given.filter (·.micros ≠ 0)).getD c.recheckInterval
    ∃ w', start companion rounds w = (.ok (), w') ∧
      w'.stopped = (before || rounds.any Round.stops) ∧
      w'.steps = opening companion ++ course backoff 1 (begun before rounds) ++
        closing companion w'.stopped ∧
      w'.cycles = w'.steps.countP WorkerStep.isCycle ∧
      (∀ r ∈ begun before rounds,
        (Seconds.ofDuration (r.delay backoff)).Tells (r.delay backoff)) ∧
      (w'.stopped = true → ∀ more, start companion (rounds ++ more) w = (.ok (), w')) := by
  intro w backoff
  have same : backoffOf c given = backoff := backoffOf_eq c given
  have fresh : w = { backoff, timer, stopped := before, cycles := 0, steps := [], log := [] } := by
    cases before <;> simp [w, stopIf, stop, create, same]
  obtain ⟨log, started⟩ := start_eq companion w unbroken (by rw [fresh]; exact returns)
  rw [fresh] at started
  simp only [Nat.zero_add, List.nil_append] at started
  rw [← fresh] at started
  refine ⟨_, started, rfl, rfl, ?_, fun r _ => Seconds.tells_ofDuration _, start_append started⟩
  rw [List.countP_append, List.countP_append, countP_opening, countP_closing, Round.countP_course,
    Nat.zero_add, Nat.add_zero]

namespace Sample

/-- A result that asks for a delay and tells nothing else. -/
def asking (delay : Duration) : CycleResult := ⟨delay, [], false, false, none⟩

/-- A failure, a cycle that asks for ten seconds, one in which a stop is asked for, and one more. -/
def eventful : List Round :=
  [⟨.error .wrongKind, false, false⟩, ⟨.ok (asking standardBackoff), false, false⟩,
    ⟨.ok (asking standardDelay), true, false⟩, ⟨.ok (asking standardDelay), false, false⟩]

/-- A timer that takes waits of up to about three hundred years. -/
def platform : Timer := ⟨.whole 9223372036, fun _ => "timeout value is too large"⟩

/-- A delay of `2 ^ 33` seconds and one microsecond. -/
def long : Duration := ⟨8589934592000001, by decide, by decide⟩

end Sample

open Sample in
theorem start_course_sample :
    (∀ r ∈ eventful, r.Unbroken) ∧
      (∀ r ∈ begun false eventful, r.Returns platform Config.default.recheckInterval) ∧
      ∃ w', start (some ⟨.whole 30, false⟩) eventful
          { create (backoffOf .default none) with timer := platform } = (.ok (), w') ∧
        w'.cycles = 3 ∧ w'.steps =
          [.watchStarted, .syncAwaited (.whole 30), .cycle 1 false,
            .waited (.ofDuration standardInterval), .cycle 2 false,
            .waited (.ofDuration standardBackoff), .cycle 3 false, .watchStopped] := by
  have unbroken : ∀ r ∈ eventful, r.Unbroken := by
    simp [eventful, Round.Unbroken, Fault.isInterruption]
  have returns : ∀ r ∈ begun false eventful, r.Returns platform Config.default.recheckInterval := by
    have waits : platform.longest.lt (Seconds.ofDuration standardInterval) = false ∧
        platform.longest.lt (Seconds.ofDuration standardBackoff) = false := by decide +kernel
    intro r hr
    simp only [eventful, Round.begun_cons, Round.stops, Bool.or_self, Bool.or_false,
      Round.begun_true, List.mem_cons, List.not_mem_nil, or_false] at hr
    rcases hr with rfl | rfl | rfl
    · exact fun _ => waits.1
    · exact fun _ => waits.2
    · exact nofun
  obtain ⟨w', started, stopped, steps, cycles, -⟩ :=
    start_course .default none (some ⟨.whole 30, false⟩) platform false unbroken returns
  rw [stopped] at steps
  rw [steps] at cycles
  exact ⟨unbroken, returns, w', started, cycles, steps⟩

/-- The seconds that are waited for after a long delay was asked for are not that delay, not even to
the microsecond. -/
theorem long_wait_inexact : ∃ s : Seconds,
    (start none [⟨.ok (Sample.asking Sample.long), false, false⟩]
      { create (backoffOf .default none) with timer := Sample.platform }).2.steps =
        [.cycle 1 false, .waited s] ∧
    1 / 2 < |s.value * 10 ^ 6 - Sample.long.micros| :=
  ⟨.ofDuration Sample.long, by decide +kernel, by decide +kernel⟩

end Worker

end NodeRelief
