import NodeRelief.Cycle
import NodeRelief.Profile.Feed
import NodeRelief.Time.Seconds

/-!
# The worker

The worker runs cycle after cycle and waits between them for as long as the last cycle asked, or for
a backoff when it failed. It may be asked to stop while a cycle runs or while it waits; then it begins
no further cycle. A platform has a longest wait. One that is longer fails, and that ends the worker where
it stands.
-/

namespace NodeRelief

/-- What a worker does, as far as it can be seen from outside. -/
inductive WorkerStep where
  | watchStarted
  /-- The first list of profiles is awaited. -/
  | syncAwaited (limit : Seconds)
  /-- A cycle of some number begins, with the cancel token set or not. -/
  | cycle (number : Nat) (cancelled : Bool)
  | waited (delay : Seconds)
  | watchStopped
deriving DecidableEq, Repr

/-- What a worker meets in one round. -/
structure Round where
  outcome : Except Fault CycleResult
  /-- Whether a stop is asked for while the cycle runs. -/
  stopsInCycle : Bool
  /-- Whether a stop is asked for during the wait after it. -/
  stopsInWait : Bool

/-- A watch of profiles as the worker sees it: one that answers when its first list is awaited. -/
structure Companion where
  /-- How long the worker waits for the first list. -/
  limit : Seconds
  /-- Whether the first list arrives in that time. -/
  synced : Bool
deriving DecidableEq, Repr

/-- What a platform waits by. -/
structure Timer where
  /-- The longest wait that it takes. -/
  longest : Seconds
  /-- What it tells of a longer one. -/
  complaint : Seconds → String

namespace Timer

/-- One that takes any wait. -/
def unlimited : Timer := ⟨.fractional (.infinite false), fun _ => ""⟩

/-- What a wait fails with, if it is too long. -/
def refusal? (t : Timer) (s : Seconds) : Option Fault :=
  if t.longest.lt s then some (.outOfRange (t.complaint s)) else none

theorem refusal?_eq_none_iff {t : Timer} {s : Seconds} :
    t.refusal? s = none ↔ t.longest.lt s = false := by
  simp [refusal?]

end Timer

structure Worker where
  /-- The delay after a cycle that failed. -/
  backoff : Duration
  timer : Timer
  stopped : Bool
  /-- How many cycles were begun. -/
  cycles : Nat
  steps : List WorkerStep
  log : List (Level × String)

namespace Worker

/-- The backoff that is given, unless it is zero, or else the recheck interval. -/
def backoffOf (c : Config) (given : Option Duration) : Duration :=
  match given with
  | some d => if d.micros = 0 then c.recheckInterval else d
  | none => c.recheckInterval

/-- A worker that is yet to be started. Its timer takes any wait, until that of a platform is put in its
place. -/
def create (backoff : Duration) : Worker := ⟨backoff, .unlimited, false, 0, [], []⟩

def stop (w : Worker) : Worker := { w with stopped := true }

def stopIf (b : Bool) (w : Worker) : Worker := if b then w.stop else w

def step (w : Worker) (s : WorkerStep) : Worker := { w with steps := w.steps ++ [s] }

def write (w : Worker) (l : Level) (line : String) : Worker := { w with log := w.log ++ [(l, line)] }

def cycleName (w : Worker) : String := "Cycle " ++ Text.numeral w.cycles

def reportError (r : CycleResult) (w : Worker) : Worker :=
  match r.error with
  | some e => if e = "" then w else w.write .warning (w.cycleName ++ " aborted: " ++ e)
  | none => w

def reportEvicted (r : CycleResult) (w : Worker) : Worker :=
  if r.evicted.isEmpty then w
  else w.write .info (w.cycleName ++ " evicted: " ++ ", ".intercalate r.evicted)

def reportRateLimit (r : CycleResult) (w : Worker) : Worker :=
  if r.rateLimited then w.write .info (w.cycleName ++ " rate limited, backing off") else w

def report (r : CycleResult) (w : Worker) : Worker :=
  reportRateLimit r (reportEvicted r (reportError r w))

/-- Takes in how a cycle ended and answers the delay until the next. Only an interruption gets
out. -/
def conclude (w : Worker) : Except Fault CycleResult → Except Fault Duration × Worker
  | .ok r => (.ok r.requeueAfter, report r w)
  | .error f =>
    if f.isInterruption then (.error f, w)
    else (.ok w.backoff, w.write .error ("Error in rebalance cycle: " ++ f.message))

/-- Begins the next cycle. -/
def beginCycle (w : Worker) : Worker :=
  { w with cycles := w.cycles + 1 }.step (.cycle (w.cycles + 1) w.stopped)

/-- Runs one cycle, whether or not a stop was asked for. -/
def runOnce (r : Round) (w : Worker) : Except Fault Duration × Worker :=
  conclude (stopIf r.stopsInCycle w.beginCycle) r.outcome

/-- Waits, unless a stop was asked for. What a refused wait fails with gets out. -/
def wait (r : Round) (delay : Duration) (w : Worker) : Except Fault Unit × Worker :=
  if w.stopped then (.ok (), w)
  else match w.timer.refusal? (.ofDuration delay) with
    | some f => (.error f, w)
    | none => (.ok (), stopIf r.stopsInWait (w.step (.waited (.ofDuration delay))))

/-- Runs the rounds up to the first one that begins after a stop was asked for. -/
def loop (w : Worker) : List Round → Except Fault Unit × Worker
  | [] => (.ok (), w)
  | r :: rest =>
    if w.stopped then (.ok (), w)
    else match runOnce r w with
      | (.error f, w) => (.error f, w)
      | (.ok delay, w) =>
        match wait r delay w with
        | (.error f, w) => (.error f, w)
        | (.ok (), w) => loop w rest

def awaitSync (c : Companion) (w : Worker) : Worker :=
  let w := (w.step .watchStarted).step (.syncAwaited c.limit)
  if c.synced then w
  else w.write .warning
    ("Profile cache not synced after " ++ c.limit.text ++ "s, starting anyway")

def startWatch (companion : Option Companion) (w : Worker) : Worker :=
  match companion with
  | some c => awaitSync c w
  | none => w

/-- Stops the watch once the loop has ended on a request to stop. -/
def endWatch (companion : Option Companion) (w : Worker) : Worker :=
  if companion.isSome && w.stopped then w.step .watchStopped else w

/-- Starts the watch, if there is one, runs the rounds, and stops the watch. What gets out of the rounds
leaves the watch running. -/
def start (companion : Option Companion) (rounds : List Round) (w : Worker) :
    Except Fault Unit × Worker :=
  match loop (startWatch companion w) rounds with
  | (.error f, w) => (.error f, w)
  | (.ok (), w) => (.ok (), endWatch companion w)

end Worker

end NodeRelief
