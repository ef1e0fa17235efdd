import NodeRelief.Proofs.Recorder

/-! # Fanning an event out

However recorders are nested, an event comes to those that keep, write or publish it one after the
other, from left to right. An invalid event goes no further than the first of them, which refuses it and
stays as it is; a valid one is taken by all of them, whatever the API answers to its publications. -/

namespace NodeRelief

/-! ## Valid events -/

theorem Reason.ofDocument?_eq_none_iff {d : Document} :
    Reason.ofDocument? d = none ↔ ∀ r : Reason, d ≠ .text r.text := by
  have all (r : Reason) : r ∈ Reason.all := by cases r <;> decide
  simp only [ofDocument?, List.find?_eq_none, decide_eq_true_eq]
  exact ⟨fun h r same => h r (all r) same.symm, fun h r _ same => h r same.symm⟩

namespace Event

/-- The fields are texts, or missing where they may be. -/
structure Formed (e : Event) : Prop where
  reason : e.reason.isText = true
  severity : e.severity.isText = true
  name : e.subject.name.isText = true
  ns : e.subject.ns.isOptionalText = true
  uid : e.subject.uid.isOptionalText = true

/-- The reason is one of those known, and the object that the event is about has a name. -/
structure Valid (e : Event) : Prop where
  reason : ∃ r : Reason, e.reason = .text r.text
  name : e.subject.name ≠ .text ""

namespace Formed

variable {e : Event}

theorem sound (h : e.Formed) (valid : e.Valid) : e.Sound where
  reason := valid.reason
  severity := h.severity
  subject := by
    refine ⟨?_, h.ns, h.uid⟩
    obtain ⟨name, named⟩ := Document.isText_iff.mp h.name
    have there := valid.name
    rw [named] at there ⊢
    simpa [Document.isName] using there

theorem flaw?_of_not_valid (h : e.Formed) (invalid : ¬ e.Valid) :
    ∃ flaw text, e.flaw? = some flaw ∧ flaw.fault = .invalid text := by
  rw [Event.flaw?, Document.isKey_of_isText h.reason]
  cases known : Reason.ofDocument? e.reason with
  | none => exact ⟨.unknownReason e.reason, _, rfl, rfl⟩
  | some r =>
      have reason : ∃ r : Reason, e.reason = .text r.text := by
        by_contra unknown
        rw [Reason.ofDocument?_eq_none_iff.mpr (by simpa using unknown)] at known
        cases known
      have nameless : e.subject.name = .text "" := by
        by_contra there
        exact invalid ⟨reason, there⟩
      rw [nameless]
      exact ⟨.namelessSubject, _, rfl, rfl⟩

end Formed

end Event

namespace Recorder

theorem record_publisher (e : Event) (p : Publisher) : record e (.publisher p) =
    checked e (.publisher p) ((p.publish e).1, .publisher (p.publish e).2) :=
  rfl

/-! ## From left to right -/

mutual

/-- The recorders that keep, write or publish events themselves, from left to right. -/
def leaves : Recorder → List Recorder
  | .memory events => [.memory events]
  | .log lines => [.log lines]
  | .publisher p => [.publisher p]
  | .all recorders => leavesOfEach recorders

def leavesOfEach : List Recorder → List Recorder
  | [] => []
  | r :: rest => leaves r ++ leavesOfEach rest

end

section

variable (e : Event)

theorem recordEach_cons (r : Recorder) (rest : List Recorder) :
    recordEach e (r :: rest) =
      match (record e r).1 with
      | .error f => (.error f, (record e r).2 :: rest)
      | .ok () => ((recordEach e rest).1, (record e r).2 :: (recordEach e rest).2) := by
  rw [recordEach]
  obtain ⟨outcome, r'⟩ := record e r
  cases outcome <;> rfl

theorem recordEach_append (before after : List Recorder) :
    recordEach e (before ++ after) =
      match (recordEach e before).1 with
      | .error f => (.error f, (recordEach e before).2 ++ after)
      | .ok () => ((recordEach e after).1, (recordEach e before).2 ++ (recordEach e after).2) := by
  induction before with
  | nil => rfl
  | cons r rest ih =>
      rw [List.cons_append, recordEach_cons, recordEach_cons, ih]
      cases (record e r).1 with
      | error f => rfl
      | ok =>
          simp only
          cases (recordEach e rest).1 <;> rfl

theorem recordEach_singleton (r : Recorder) :
    recordEach e [r] = ((record e r).1, [(record e r).2]) := by
  rw [recordEach_cons]
  cases (record e r).1 <;> rfl

mutual

/-- An event comes to a recorder as it comes to its leaves in turn. -/
theorem recordEach_leaves :
    (r : Recorder) → recordEach e r.leaves = ((record e r).1, (record e r).2.leaves)
  | .memory _ => by
    rw [leaves, recordEach_singleton, record, checked]
    cases e.flaw? <;> rfl
  | .log _ => by
    rw [leaves, recordEach_singleton, record, checked]
    cases e.flaw? <;> rfl
  | .publisher p => by
    rw [leaves, recordEach_singleton, record_publisher, checked]
    cases e.flaw? <;> rfl
  | .all recorders => by
    rw [leaves, recordEach_leavesOfEach recorders, record]
    rfl

theorem recordEach_leavesOfEach : (rs : List Recorder) →
    recordEach e (leavesOfEach rs) = ((recordEach e rs).1, leavesOfEach (recordEach e rs).2)
  | [] => rfl
  | r :: rest => by
    rw [leavesOfEach, recordEach_append, recordEach_leaves r, recordEach_leavesOfEach rest,
      recordEach_cons]
    cases (record e r).1 <;> rfl

end

/-! ## Invalid events -/

mutual

/-- The first leaf refuses an invalid event, and nothing has changed by then. -/
theorem record_of_flaw {flaw : EventFlaw} (flawed : e.flaw? = some flaw) : (r : Recorder) →
    record e r = (if r.leaves.isEmpty then .ok () else .error flaw.fault, r)
  | .memory _ | .log _ => by
    rw [record, checked, flawed]
    rfl
  | .publisher _ => by
    rw [record_publisher, checked, flawed]
    rfl
  | .all recorders => by
    rw [record, recordEach_of_flaw flawed recorders]
    rfl

theorem recordEach_of_flaw {flaw : EventFlaw} (flawed : e.flaw? = some flaw) :
    (rs : List Recorder) →
      recordEach e rs = (if (leavesOfEach rs).isEmpty then .ok () else .error flaw.fault, rs)
  | [] => rfl
  | r :: rest => by
    rw [recordEach_cons, record_of_flaw flawed r, recordEach_of_flaw flawed rest, leavesOfEach]
    cases r.leaves <;> rfl

end

/-! ## Valid events -/

theorem receivedByEach_eq_map (rs : List Recorder) :
    receivedByEach e rs = rs.map (received e) := by
  induction rs with
  | nil => rfl
  | cons r rest ih => rw [receivedByEach, ih, List.map_cons]

mutual

/-- What a recorder takes, each leaf of it takes once. -/
theorem leaves_received : (r : Recorder) → (received e r).leaves = r.leaves.map (received e)
  | .memory _ | .log _ | .publisher _ => rfl
  | .all recorders => leaves_receivedByEach recorders

theorem leaves_receivedByEach : (rs : List Recorder) →
    leavesOfEach (receivedByEach e rs) = (leavesOfEach rs).map (received e)
  | [] => rfl
  | r :: rest => by
    rw [receivedByEach, leavesOfEach, leavesOfEach, leaves_received r, leaves_receivedByEach rest,
      List.map_append]

end

end

theorem allMild_of_forall {rs : List Recorder} (h : ∀ r ∈ rs, r.Mild) : AllMild rs := by
  induction rs with
  | nil => trivial
  | cons r rest ih =>
      rw [List.forall_mem_cons] at h
      exact ⟨h.1, ih h.2⟩

variable {e : Event} {r leaf : Recorder} {before after : List Recorder}

/-- A leaf that fails has been reached behind those on its left and before those on its right. -/
theorem record_of_failing {f : Fault} (he : e.Sound) (leaves : r.leaves = before ++ leaf :: after)
    (mild : ∀ b ∈ before, b.Mild) (fails : (record e leaf).1 = .error f) :
    (record e r).1 = .error f ∧
      (record e r).2.leaves = before.map (received e) ++ (record e leaf).2 :: after := by
  have run : recordEach e r.leaves =
      (.error f, before.map (received e) ++ (record e leaf).2 :: after) := by
    rw [leaves, recordEach_append, recordEach_eq he before (allMild_of_forall mild),
      receivedByEach_eq_map, recordEach_cons, fails]
  rw [recordEach_leaves, Prod.mk.injEq] at run
  exact run

/-- However recorders are nested, an invalid event changes none of them, and is refused as soon as there
is a leaf to refuse it. A valid event is recorded although publications fail as clients reckon with: each
leaf takes it once. Leaves are reached from left to right: if one fails in any other way, those before it
have taken the event and those behind it have not been reached. -/
theorem fan_out_all_or_nothing (formed : e.Formed) (r : Recorder) :
    (¬ e.Valid → ∃ text,
      record e r = (if r.leaves.isEmpty then .ok () else .error (.invalid text), r)) ∧
    (e.Valid → r.Mild →
      record e r = (.ok (), received e r) ∧
        (received e r).leaves = r.leaves.map (received e)) ∧
    ∀ before leaf after f, e.Valid → r.leaves = before ++ leaf :: after → (∀ b ∈ before, b.Mild) →
      (record e leaf).1 = .error f →
        (record e r).1 = .error f ∧
          (record e r).2.leaves = before.map (received e) ++ (record e leaf).2 :: after := by
  refine ⟨fun invalid => ?_, fun valid mild => ?_, fun before leaf after f valid leaves mild => ?_⟩
  · obtain ⟨flaw, text, flawed, fault⟩ := formed.flaw?_of_not_valid invalid
    refine ⟨text, ?_⟩
    rw [record_of_flaw e flawed, fault]
  · exact ⟨record_eq (formed.sound valid) r mild, leaves_received e r⟩
  · exact record_of_failing (formed.sound valid) leaves mild

namespace Sample

def event : Event :=
  .make .podEvicted Event.normal ⟨"Pod", .text "web-1", .text "shop", "v1", .null⟩ "Pod web-1 evicted"

def unknown : Event := { event with reason := .text "Unknown" }

/-- A publisher whose next publication meets a fault. -/
def failing (f : Fault) : Recorder :=
  .publisher ⟨⟨[.error f], .ok .null, []⟩, .text "controller", .int 30, []⟩

def around (r : Recorder) : Recorder := .all [.memory [], .all [r, .log []], .all [], .memory []]

theorem formed : event.Formed ∧ unknown.Formed := ⟨⟨rfl, rfl, rfl, rfl, rfl⟩, ⟨rfl, rfl, rfl, rfl, rfl⟩⟩

theorem valid : event.Valid := ⟨⟨.podEvicted, rfl⟩, by decide⟩

theorem not_valid : ¬ unknown.Valid := by
  rintro ⟨⟨r, known⟩, -⟩
  cases r <;> exact absurd known (by decide)

theorem mild : (around (failing (.transport "no route"))).Mild :=
  ⟨trivial, ⟨⟨rfl, by simp [isExpected, Fault.clientError?], rfl⟩, trivial, trivial⟩, trivial, trivial,
    trivial⟩

end Sample

open Sample in
/-- A publication that fails, one that is interrupted, and an event with an unknown reason. -/
theorem fan_out_all_or_nothing_sample :
    (event.Formed ∧ event.Valid ∧ (around (failing (.transport "no route"))).Mild ∧
      (record event (around (failing (.transport "no route")))).1 = .ok () ∧
      (record event (around (failing (.transport "no route")))).2.leaves.map events =
        [[event], [], [], [event]]) ∧
    (unknown.Formed ∧ ¬ unknown.Valid ∧ ∃ text,
      record unknown (around (failing (.transport "no route"))) =
        (.error (.invalid text), around (failing (.transport "no route")))) ∧
    (record event (failing (.interrupted "stop"))).1 = .error (.interrupted "stop") ∧
    (record event (around (failing (.interrupted "stop")))).2.leaves.map events =
      [[event], [], [], []] := by
  obtain ⟨-, taken, -⟩ :=
    fan_out_all_or_nothing formed.1 (around (failing (.transport "no route")))
  obtain ⟨refused, -, -⟩ :=
    fan_out_all_or_nothing formed.2 (around (failing (.transport "no route")))
  obtain ⟨-, -, stopped⟩ :=
    fan_out_all_or_nothing formed.1 (around (failing (.interrupted "stop")))
  obtain ⟨recorded, leaves⟩ := taken valid mild
  obtain ⟨text, untouched⟩ := refused not_valid
  obtain ⟨-, halted⟩ := stopped [.memory []] (failing (.interrupted "stop")) [.log [], .memory []]
    (.interrupted "stop") valid rfl (by simp [Mild]) rfl
  refine ⟨⟨formed.1, valid, mild, ?_, ?_⟩, ⟨formed.2, not_valid, text, untouched⟩, rfl, ?_⟩
  · rw [recorded]
  · rw [recorded, leaves]
    rfl
  · rw [halted]
    rfl

end Recorder

end NodeRelief
