import NodeRelief.Proofs.Sound

/-! # Requests and their replies

The script of an API answers one request after the other. The bodies of requests about sound objects are
fit to be sent. -/

namespace NodeRelief

/-- A reply of the API: a document, or a failure that clients reckon with. -/
def isExpected : Except Fault Document → Bool
  | .ok _ => true
  | .error f => f.clientError?.isSome

namespace Api

/-- The reply that the next request gets, whatever it asks for. -/
def next (a : Api) : Except Fault Document := a.replies.headD a.afterwards

theorem send_eq (a : Api) (r : Request) (timeout : Document) :
    a.send r timeout = (a.next, { a with replies := a.replies.tail, sent := a.sent ++ [⟨r, timeout⟩] }) := by
  obtain ⟨replies, afterwards, sent⟩ := a
  cases replies <;> rfl

/-- Every reply to come is a document or a failure that clients reckon with. -/
structure Mild (a : Api) : Prop where
  replies : ∀ r ∈ a.replies, isExpected r = true
  afterwards : isExpected a.afterwards = true

theorem Mild.next {a : Api} (h : a.Mild) : isExpected a.next = true := by
  simp only [Api.next]
  cases hr : a.replies with
  | nil => exact h.afterwards
  | cons r rest => exact h.replies r (by simp [hr])

theorem Mild.send {a : Api} (h : a.Mild) (r : Request) (timeout : Document) :
    (a.send r timeout).2.Mild := by
  rw [send_eq]
  exact ⟨fun r hr => h.replies r (List.mem_of_mem_tail hr), h.afterwards⟩

end Api

theorem textComplaints_eq_nil {fields : List (String × Document)}
    (h : ∀ field ∈ fields, field.2.isOptionalText = true) : textComplaints fields = [] := by
  apply List.filterMap_eq_nil_iff.mpr
  intro field hf
  have optional := h field hf
  obtain ⟨name, d⟩ := field
  cases d with
  | null => rfl
  | text s => rfl
  | _ => cases optional

theorem EvictionBody.make_isOk {c : Config} {p : Pod} (hc : c.Sound) (hp : p.Sound c) :
    make p c.gracePeriod = .ok ⟨p.name, p.ns, c.gracePeriod⟩ := by
  have name := Document.isOptionalText_of_isText (Document.isText_of_isName hp.name)
  have ns := Document.isOptionalText_of_isText hp.ns
  simp only [make]
  rw [textComplaints_eq_nil (by simpa using ⟨name, ns⟩), hc.gracePeriod]
  rfl

end NodeRelief
