import NodeRelief.Register

/-!
# The lock of the profile store

Many readers hold the lock together, or one writer alone. A reader also waits while a writer is
waiting. A thread that cannot have the lock goes to sleep; a release that may let others in wakes all
sleepers, and each of them tests again for itself.
-/

namespace NodeRelief

inductive LockMode where
  | read
  | write
deriving DecidableEq, Repr

inductive ThreadPhase where
  | holding
  | asleep
  /-- Woken and still to test again. -/
  | woken
deriving DecidableEq, Repr

/-- A thread that holds the lock or wants it, by whatever tells threads apart. -/
structure Thread (ι : Type) where
  id : ι
  mode : LockMode
  phase : ThreadPhase
deriving DecidableEq, Repr

structure Lock (ι : Type) where
  readers : Nat
  writer : Bool
  writersWaiting : Nat
  threads : Register (Thread.id : Thread ι → ι)

namespace Lock

variable {ι : Type} [DecidableEq ι]

def free : Lock ι := ⟨0, false, 0, .empty⟩

/-- Whether a thread of this mode has to wait. -/
def blocks (l : Lock ι) : LockMode → Bool
  | .read => l.writer || l.writersWaiting != 0
  | .write => l.writer || l.readers != 0

def setPhase (l : Lock ι) (t : Thread ι) (p : ThreadPhase) : Lock ι :=
  { l with threads := l.threads.put { t with phase := p } }

/-- Counts a thread among the holders. -/
def enter (l : Lock ι) : LockMode → Lock ι
  | .read => { l with readers := l.readers + 1 }
  | .write => { l with writer := true }

/-- A writer is counted as waiting until it holds the lock. -/
def enlist (l : Lock ι) : LockMode → Lock ι
  | .read => l
  | .write => { l with writersWaiting := l.writersWaiting + 1 }

def delist (l : Lock ι) : LockMode → Lock ι
  | .read => l
  | .write => { l with writersWaiting := l.writersWaiting - 1 }

/-- One test of a thread that wants the lock: it gets it or goes to sleep. -/
def test (l : Lock ι) (t : Thread ι) : Lock ι :=
  if l.blocks t.mode then l.setPhase t .asleep
  else ((l.delist t.mode).enter t.mode).setPhase t .holding

/-- A new thread asks for the lock. A thread that is here already asks for nothing. -/
def ask (l : Lock ι) (id : ι) (mode : LockMode) : Lock ι :=
  if l.threads.has id then l else (l.enlist mode).test ⟨id, mode, .asleep⟩

/-- A woken thread tests again. -/
def retry (l : Lock ι) (t : Thread ι) : Lock ι := if t.phase = .woken then l.test t else l

def wake (t : Thread ι) : Thread ι := if t.phase = .asleep then { t with phase := .woken } else t

def wakeAll (l : Lock ι) : Lock ι := { l with threads := .ofList (l.threads.items.map wake) }

/-- Takes a holder out; the last reader and every writer wake the sleepers. -/
def leave (l : Lock ι) (t : Thread ι) : Lock ι :=
  let threads := l.threads.remove t.id
  match t.mode with
  | .write => wakeAll { l with writer := false, threads }
  | .read =>
    let l := { l with readers := l.readers - 1, threads }
    if l.readers = 0 then l.wakeAll else l

/-- A thread gives the lock back; one that does not hold it has nothing to give. -/
def release (l : Lock ι) (id : ι) : Lock ι :=
  match l.threads.find? id with
  | some t => if t.phase = .holding then l.leave t else l
  | none => l

/-- Lets every woken thread test again, in order of arrival. -/
def settle (l : Lock ι) : Lock ι := l.threads.items.foldl retry l

/-- One critical section of one thread. -/
inductive Step : Lock ι → Lock ι → Prop where
  | ask (l : Lock ι) (id : ι) (mode : LockMode) : l.threads.find? id = none →
      Step l (l.ask id mode)
  | retry (l : Lock ι) (t : Thread ι) : t ∈ l.threads.items → t.phase = .woken → Step l (l.retry t)
  | release (l : Lock ι) (t : Thread ι) : t ∈ l.threads.items → t.phase = .holding →
      Step l (l.release t.id)

/-- What can come about from the free lock. -/
inductive Reachable : Lock ι → Prop where
  | free : Reachable free
  | step {l l' : Lock ι} : Reachable l → Step l l' → Reachable l'

/-- The holders and their modes, in order of arrival. -/
def holders (l : Lock ι) : List (ι × LockMode) :=
  (l.threads.items.filter (·.phase = .holding)).map fun t => (t.id, t.mode)

/-- The threads that want the lock and do not hold it, in order of arrival. -/
def waiting (l : Lock ι) : List ι :=
  (l.threads.items.filter (·.phase ≠ .holding)).map Thread.id

end Lock

end NodeRelief
