import NodeRelief.Proofs.Api.Request
import NodeRelief.Recorder

/-! # Recorders that take every sound event

Events about sound objects are sound. A recorder whose publishers meet no other failures than those of the
API and of the transport records them all. -/

namespace NodeRelief

/-! ## Sound events -/

structure Subject.Sound (s : Subject) : Prop where
  name : s.name.isName = true
  ns : s.ns.isOptionalText = true
  uid : s.uid.isOptionalText = true

structure Event.Sound (e : Event) : Prop where
  reason : ∃ r : Reason, e.reason = .text r.text
  severity : e.severity.isText = true
  subject : e.subject.Sound

namespace Subject

variable {c : Config}

theorem sound_ofNode {n : Node} (h : n.Sound) : (ofNode n).Sound := ⟨h.name, rfl, h.uid⟩

theorem sound_ofPod {p : Pod} (h : p.Sound c) : (ofPod p).Sound :=
  ⟨h.name, Document.isOptionalText_of_isText h.ns, h.uid⟩

theorem sound_ofOwner {o : Owner} (h : o.Sound c) : (ofOwner o).Sound :=
  ⟨h.name, Document.isOptionalText_of_isText h.ns, h.uid⟩

end Subject

namespace Event

variable {e : Event}

theorem sound_make {s : Subject} (reason : Reason) (severity message : String) (h : s.Sound) :
    (make reason severity s message).Sound :=
  ⟨⟨reason, rfl⟩, rfl, h⟩

theorem Sound.flaw? (h : e.Sound) : e.flaw? = none := by
  obtain ⟨r, hr⟩ := h.reason
  have known : Reason.ofDocument? (.text r.text) = some r := by
    cases r <;> decide
  have named := Document.isTruthy_of_isName h.subject.name
  simp [Event.flaw?, hr, known, named, Document.isKey]

end Event

/-! ## Mild recorders -/

structure Publisher.Mild (p : Publisher) : Prop where
  component : p.component.isOptionalText = true
  api : p.api.Mild

namespace Recorder

mutual

def Mild : Recorder → Prop
  | .memory _ => True
  | .log _ => True
  | .publisher p => p.Mild
  | .all recorders => AllMild recorders

def AllMild : List Recorder → Prop
  | [] => True
  | r :: rest => r.Mild ∧ AllMild rest

end

end Recorder

variable {e : Event}

namespace Publisher

variable {p : Publisher}

theorem check_body (hp : p.Mild) (he : e.Sound) : (p.body e).check = .ok (p.body e) := by
  obtain ⟨r, hr⟩ := he.reason
  have reason : e.reason.isOptionalText = true := by rw [hr]; rfl
  have severity := Document.isOptionalText_of_isText he.severity
  have name := Document.isOptionalText_of_isText (Document.isText_of_isName he.subject.name)
  have ns : (namespaceOf e.subject).isOptionalText = true := by
    simp only [namespaceOf, Document.orElse]
    split
    · exact he.subject.ns
    · rfl
  simp only [EventBody.check]
  rw [textComplaints_eq_nil, textComplaints_eq_nil, textComplaints_eq_nil, textComplaints_eq_nil]
  · rfl
  · simpa [body] using ⟨reason, severity⟩
  · simpa [body] using hp.component
  · simpa [body] using ⟨name, he.subject.ns, he.subject.uid⟩
  · simpa [body] using ns

/-- A publisher after one more publication; that it failed is noted. -/
def published (p : Publisher) (e : Event) : Publisher where
  api := { p.api with
    replies := p.api.replies.tail
    sent := p.api.sent ++ [⟨.createEvent (namespaceOf e.subject) (p.body e), p.timeout⟩] }
  component := p.component
  timeout := p.timeout
  notes := match p.api.next with
    | .ok _ => p.notes
    | .error _ => p.notes ++ [.warning]

theorem publish_eq (hp : p.Mild) (he : e.Sound) : p.publish e = (.ok (), p.published e) := by
  have expected := hp.api.next
  simp only [publish]
  rw [check_body hp he]
  simp only [send, Api.send_eq, published]
  cases hr : p.api.next with
  | ok d => rfl
  | error f =>
      rw [hr] at expected
      obtain ⟨reason, told⟩ := Option.isSome_iff_exists.mp expected
      simp only [told]
      rfl

theorem Mild.published (hp : p.Mild) (e : Event) : (p.published e).Mild where
  component := hp.component
  api := ⟨fun r hr => hp.api.replies r (List.mem_of_mem_tail hr), hp.api.afterwards⟩

end Publisher

namespace Recorder

theorem checked_of_sound {r : Recorder} (he : e.Sound) (accept : Except Fault Unit × Recorder) :
    checked e r accept = accept := by
  rw [checked, he.flaw?]

mutual

/-- A recorder that has taken one more event. -/
def received (e : Event) : Recorder → Recorder
  | .memory events => .memory (events ++ [e])
  | .log lines => .log (lines ++ [(logLevel e, logLine e)])
  | .publisher p => .publisher (p.published e)
  | .all recorders => .all (receivedByEach e recorders)

def receivedByEach (e : Event) : List Recorder → List Recorder
  | [] => []
  | r :: rest => received e r :: receivedByEach e rest

end

mutual

/-- A mild recorder takes every sound event. -/
theorem record_eq (he : e.Sound) : (r : Recorder) → r.Mild → record e r = (.ok (), received e r)
  | .memory events, _ => by rw [record, checked_of_sound he, received]
  | .log lines, _ => by rw [record, checked_of_sound he, received]
  | .publisher p, h => by
    rw [record, p.publish_eq h he, received]
    exact checked_of_sound he _
  | .all recorders, h => by rw [record, recordEach_eq he recorders h, received]

theorem recordEach_eq (he : e.Sound) :
    (rs : List Recorder) → AllMild rs → recordEach e rs = (.ok (), receivedByEach e rs)
  | [], _ => by rw [recordEach, receivedByEach]
  | r :: rest, h => by
    rw [recordEach, record_eq he r h.1, receivedByEach]
    simp only [recordEach_eq he rest h.2]

end

mutual

theorem mild_received (e : Event) : (r : Recorder) → r.Mild → (received e r).Mild
  | .memory _, _ => trivial
  | .log _, _ => trivial
  | .publisher _, h => Publisher.Mild.published h e
  | .all recorders, h => mild_receivedByEach e recorders h

theorem mild_receivedByEach (e : Event) :
    (rs : List Recorder) → AllMild rs → AllMild (receivedByEach e rs)
  | [], _ => trivial
  | r :: rest, h => ⟨mild_received e r h.1, mild_receivedByEach e rest h.2⟩

end

/-- A mild recorder takes every sound event and stays mild. -/
theorem record_mild (he : e.Sound) (r : Recorder) (h : r.Mild) :
    ∃ r', record e r = (.ok (), r') ∧ r'.Mild :=
  ⟨_, record_eq he r h, mild_received e r h⟩

end Recorder

end NodeRelief
