import NodeRelief.Plan
import NodeRelief.Recorder

/-!
# Scenes

A world made of a cluster, a recorder of events, a clock and a cancel token. The token is set once a
given number of calls to the cluster have finished, successful or not.
-/

namespace NodeRelief

/-- Readings to come, in microseconds since the epoch; the last one is repeated. -/
structure Clock where
  current : Int
  later : List Int
deriving DecidableEq, Repr

namespace Clock

def ofList : List Int → Clock
  | [] => ⟨0, []⟩
  | us :: rest => ⟨us, rest⟩

def advance (c : Clock) : Clock :=
  match c.later with
  | [] => c
  | us :: rest => ⟨us, rest⟩

/-- The current reading, if it is an instant of the calendar; either way the clock goes on. -/
def read (c : Clock) : Except Fault Instant × Clock :=
  (Fault.orOutOfRange (Instant.ofMicros? c.current), c.advance)

end Clock

/-- A cluster of the kind `κ`, as far as it answers calls. -/
abbrev Backend (κ : Type) := (c : Call) → κ → Except Fault c.Value × κ

structure Scene (κ : Type) where
  cluster : κ
  recorder : Recorder
  clock : Clock
  /-- Calls until the cancel token is set, if it ever is. -/
  callsLeft : Option Nat

namespace Scene

variable {κ : Type}

def reply (backend : Backend κ) : (q : Query) → Scene κ → q.Reply × Scene κ
  | .call c, s =>
    let (answer, cluster) := backend c s.cluster
    (answer, { s with cluster, callsLeft := s.callsLeft.map (· - 1) })
  | .record e, s =>
    let (outcome, recorder) := s.recorder.record e
    (outcome, { s with recorder })
  | .clock, s =>
    let (t, clock) := s.clock.read
    (t, { s with clock })
  | .cancelled, s => (s.callsLeft == some 0, s)

def world (backend : Backend κ) : World (Scene κ) := ⟨reply backend⟩

end Scene

end NodeRelief
