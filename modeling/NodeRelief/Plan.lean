import NodeRelief.Cluster.Object
import NodeRelief.Event
import NodeRelief.Fault

/-!
# Plans

A plan is a program that asks its surroundings: it calls the cluster, records events, reads the
clock and looks at the cancel token. Running a plan in a world yields its outcome, the world's last
state, and every exchange with the state before it.
-/

namespace NodeRelief

/-- A call to the cluster. -/
inductive Call where
  | listNodes
  | listPods
  | listBudgets (ns : Document)
  | readOwner (id : OwnerId)
  | annotateOwner (owner : Owner) (entries : Holding)
  | evict (pod : Pod) (gracePeriod : Document)

/-- What a call answers when it succeeds. -/
@[reducible] def Call.Value : Call → Type
  | .listNodes => List Node
  | .listPods => List Pod
  | .listBudgets _ => List Budget
  | .readOwner _ => Owner
  | .annotateOwner _ _ => Unit
  | .evict _ _ => Unit

inductive Query where
  | call (c : Call)
  | record (e : Event)
  | clock
  | cancelled

@[reducible] def Query.Reply : Query → Type
  | .call c => Except Fault c.Value
  | .record _ => Except Fault Unit
  | .clock => Except Fault Instant
  | .cancelled => Bool

inductive Plan (α : Type) : Type where
  | done (a : α)
  | fail (f : Fault)
  | ask (q : Query) (next : q.Reply → Plan α)

namespace Plan

variable {α β σ : Type}

protected def bind : Plan α → (α → Plan β) → Plan β
  | .done a, next => next a
  | .fail f, _ => .fail f
  | .ask q k, next => .ask q fun r => (k r).bind next

instance : Monad Plan where
  pure := .done
  bind := Plan.bind

/-- A call and its answer, be it a fault. -/
def call (c : Call) : Plan (Except Fault c.Value) := .ask (.call c) .done

/-- Ends the plan on a fault. -/
def raise : Except Fault α → Plan α
  | .ok a => .done a
  | .error f => .fail f

def record (e : Event) : Plan Unit := .ask (.record e) raise

/-- The time; a clock may show one that is outside the calendar. -/
def clock : Plan Instant := .ask .clock raise

def cancelled : Plan Bool := .ask .cancelled .done

def recordAll : List Event → Plan Unit
  | [] => .done ()
  | e :: rest => do
    record e
    recordAll rest

end Plan

/-- Surroundings that answer queries and change as they do. -/
structure World (σ : Type) where
  reply : (q : Query) → σ → q.Reply × σ

/-- A query, its reply, and the state in which it was asked. -/
structure Exchange (σ : Type) where
  before : σ
  query : Query
  reply : query.Reply

structure Run (σ α : Type) where
  outcome : Except Fault α
  state : σ
  exchanges : List (Exchange σ)

namespace Plan

variable {α β σ : Type}

def run (w : World σ) : Plan α → σ → Run σ α
  | .done a, s => ⟨.ok a, s, []⟩
  | .fail f, s => ⟨.error f, s, []⟩
  | .ask q k, s =>
    let (r, s') := w.reply q s
    let rest := (k r).run w s'
    { rest with exchanges := ⟨s, q, r⟩ :: rest.exchanges }

@[simp] theorem run_done (w : World σ) (a : α) (s : σ) : (done a).run w s = ⟨.ok a, s, []⟩ := rfl

@[simp] theorem run_fail (w : World σ) (f : Fault) (s : σ) :
    (fail f : Plan α).run w s = ⟨.error f, s, []⟩ := rfl

/-- A sequence of two plans runs the first and, if that succeeds, the second from where it ended. -/
theorem run_bind (w : World σ) (p : Plan α) (next : α → Plan β) (s : σ) :
    (p >>= next).run w s =
      match p.run w s with
      | ⟨.ok a, s', l⟩ =>
        let rest := (next a).run w s'
        { rest with exchanges := l ++ rest.exchanges }
      | ⟨.error f, s', l⟩ => ⟨.error f, s', l⟩ := by
  induction p generalizing s with
  | done a => rfl
  | fail f => rfl
  | ask q k ih =>
    have h := ih (w.reply q s).1 (w.reply q s).2
    change (Plan.bind _ _).run w s = _
    change (Plan.bind _ _).run w _ = _ at h
    simp only [Plan.bind, run, h]
    generalize (k (w.reply q s).1).run w (w.reply q s).2 = r
    obtain ⟨o, s', l⟩ := r
    cases o <;> rfl

end Plan

end NodeRelief
