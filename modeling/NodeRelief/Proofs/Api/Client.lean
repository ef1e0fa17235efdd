import NodeRelief.Api.Client
import NodeRelief.Proofs.Api.Reading
import NodeRelief.Proofs.Cycle.Outline
import NodeRelief.Proofs.Scene

/-! # Calls to a cluster behind an API

A call fails if and only if the request that it makes fails. A failure is told as a refused call, and only
an eviction that is put off by a rate limit is told apart; a document of the right form is read. -/

namespace NodeRelief

open Document (under fitsNamed fitsPod fitsOwner fitsBudget)

/-- Whether a reply to the request of a call is a failure that clients reckon with, or a document of the
form that the API gives to what is asked for. -/
def Call.isAnswered (c : Config) : Call → Except Fault Document → Bool
  | _, .error f => f.clientError?.isSome
  | .listNodes, .ok d => d.isObject && (under "items" d).isListOf fitsNamed
  | .listPods, .ok d => d.isObject && (under "items" d).isListOf fitsPod
  | .listBudgets _, .ok d => d.isObject && (under "items" d).isListOf fitsBudget
  | .readOwner _, .ok d => fitsOwner c.cooldownMark d
  | .annotateOwner _ _, .ok _ => true
  | .evict _ _, .ok _ => true

namespace Client

variable {c : Config} {client : Client} {reply : Except Fault Document}

/-! ## Replies -/

/-- Whether the API puts a request off because there were too many. -/
def isThrottled : Except Fault Document → Bool
  | .ok _ => false
  | .error f => isTooMany f

/-- An answer is what was read from the reply, or the reply's failure told with `refuse`. -/
structure Understood {α : Type} (P : α → Prop) (refuse : String → Fault)
    (reply : Except Fault Document) (answer : Except Fault α) : Prop where
  read : ∀ a, answer = .ok a → P a
  refused : ∀ f, answer = .error f → ∃ reason, f = refuse reason
  isOk : answer.isOk = reply.isOk

theorem understood {α : Type} {P : α → Prop} (refuse : String → Fault)
    {read : Document → Except Fault α} (expected : isExpected reply = true)
    (hread : ∀ d, reply = .ok d → ∃ a, read (Reading.entity d) = .ok a ∧ P a) :
    Understood P refuse reply (understand refuse read (reply.map Reading.entity)) := by
  cases reply with
  | ok d =>
      obtain ⟨a, ha, hP⟩ := hread d rfl
      rw [Except.map, understand, ha]
      exact ⟨fun a' h => by cases h; exact hP, fun f h => (by cases h), rfl⟩
  | error f =>
      obtain ⟨reason, hr⟩ := Option.isSome_iff_exists.mp expected
      rw [Except.map, understand, hr]
      exact ⟨fun a h => (by cases h), fun f h => (by cases h; exact ⟨reason, rfl⟩), rfl⟩

theorem evictionAnswer_spec (p : Pod) (expected : isExpected reply = true) :
    Eviction.outcome? (evictionAnswer p (reply.map Reading.entity)) ≠ none ∧
      (evictionAnswer p (reply.map Reading.entity)).isOk = reply.isOk ∧
      isRateLimited (evictionAnswer p (reply.map Reading.entity)) = isThrottled reply := by
  cases reply with
  | ok d => exact ⟨by simp [evictionAnswer, Except.map, Eviction.outcome?], rfl, rfl⟩
  | error f =>
      obtain ⟨reason, hr⟩ := Option.isSome_iff_exists.mp expected
      simp only [evictionAnswer, Except.map, hr, isThrottled]
      by_cases many : isTooMany f = true
      · rw [if_pos many, many]
        exact ⟨by simp [Eviction.outcome?], rfl, rfl⟩
      · rw [if_neg many]
        exact ⟨by simp [Eviction.outcome?], rfl, by simpa [isRateLimited] using many⟩

theorem send_fst (r : Request) : (client.send r).1 = client.api.next.map Reading.entity := by
  simp only [send]
  rw [Api.send_eq]

/-! ## Answers -/

theorem isExpected_of_isAnswered {call : Call} (h : call.isAnswered c reply = true) :
    isExpected reply = true := by
  cases reply with
  | ok d => rfl
  | error f => cases call <;> exact h

/-! The call as it is told by the reply that is due. -/

theorem answer_listNodes :
    (answer .listNodes client).1 =
      understand .nodesUnlisted (Reading.listOf Reading.node) (client.api.next.map Reading.entity) := by
  rw [← send_fst .listNodes]
  rfl

theorem answer_listPods :
    (answer .listPods client).1 =
      understand .podsUnlisted (Reading.listOf Reading.pod) (client.api.next.map Reading.entity) := by
  rw [← send_fst .listPods]
  rfl

theorem answer_listBudgets {ns : Document} :
    (answer (.listBudgets ns) client).1 =
      understand (.budgetsUnlisted ns) (Reading.listOf Reading.budget)
        (client.api.next.map Reading.entity) := by
  rw [← send_fst (.listBudgets ns)]
  rfl

theorem answer_readOwner {id : OwnerId} :
    (answer (.readOwner id) client).1 =
      understand (.ownerUnread id) (Reading.owner id.kind) (client.api.next.map Reading.entity) := by
  rw [← send_fst (.readOwner id)]
  rfl

theorem answer_annotateOwner {o : Owner} {t : Instant} :
    (answer (.annotateOwner o (.mapping (Cooldown.entry c.cooldownMark t))) client).1 =
      understand (.ownerUnpatched o) (fun _ => .ok ()) (client.api.next.map Reading.entity) := by
  rw [← send_fst]
  rfl

theorem answer_evict (hc : c.Sound) {p : Pod} (hp : p.Sound c) :
    (answer (.evict p c.gracePeriod) client).1 =
      evictionAnswer p (client.api.next.map Reading.entity) := by
  rw [answer, EvictionBody.make_isOk hc hp]
  exact congrArg (evictionAnswer p) (send_fst _)

/-- A list whose items are read one by one. -/
theorem list_understood {α : Type} {P : α → Prop} {fits : Document → Bool}
    {read : Document → Except Fault α} (refuse : String → Fault)
    (one : ∀ d, fits d = true → ∃ a, read (Reading.entity d) = .ok a ∧ P a)
    (expected : isExpected reply = true)
    (fit : ∀ d, reply = .ok d → (d.isObject && (under "items" d).isListOf fits) = true) :
    Understood (fun as => ∀ a ∈ as, P a) refuse reply
      (understand refuse (Reading.listOf read) (reply.map Reading.entity)) := by
  apply understood refuse expected
  intro d hd
  have listed := Bool.and_eq_true_iff.mp (fit d hd)
  exact Reading.listOf_isOk one listed.1 listed.2

/-- An owner that is read has a deadline that can be told and followed by another. -/
theorem owner_understood {id : OwnerId} (h : (Call.readOwner id).isAnswered c reply = true) :
    Understood (fun o => o.Sound c ∧ Cooldown.Timely c.cooldownMark o) (.ownerUnread id) reply
      (understand (.ownerUnread id) (Reading.owner id.kind) (reply.map Reading.entity)) := by
  apply understood _ (isExpected_of_isAnswered h)
  intro d hd
  rw [hd] at h
  exact Reading.owner_isOk id.kind h

/-- A sound call is answered sanely, and it fails if and only if its request does. -/
theorem answer_spec (hc : c.Sound) {call : Call} (hcall : call.Sound c)
    (h : call.isAnswered c client.api.next = true) :
    call.Accepts c (answer call client).1 ∧ (answer call client).1.isOk = client.api.next.isOk := by
  have expected := isExpected_of_isAnswered h
  cases call with
  | listNodes =>
      rw [answer_listNodes]
      have told := list_understood .nodesUnlisted (fun d hd => Reading.node_isOk hd)
        expected fun d hd => by rw [hd] at h; exact h
      refine ⟨?_, told.isOk⟩
      generalize understand _ _ _ = r at told
      cases r with
      | ok nodes => exact told.read nodes rfl
      | error f =>
          obtain ⟨reason, rfl⟩ := told.refused f rfl
          exact ⟨_, rfl⟩
  | listPods =>
      rw [answer_listPods]
      have told := list_understood .podsUnlisted
        (fun d hd => Reading.pod_isOk (c := c) hd) expected fun d hd => by rw [hd] at h; exact h
      refine ⟨?_, told.isOk⟩
      generalize understand _ _ _ = r at told
      cases r with
      | ok pods => exact told.read pods rfl
      | error f =>
          obtain ⟨reason, rfl⟩ := told.refused f rfl
          exact ⟨_, rfl⟩
  | listBudgets ns =>
      rw [answer_listBudgets]
      have told := list_understood (.budgetsUnlisted ns)
        (fun d hd => Reading.budget_isOk hd) expected fun d hd => by rw [hd] at h; exact h
      refine ⟨?_, told.isOk⟩
      generalize understand _ _ _ = r at told
      cases r with
      | ok budgets => exact told.read budgets rfl
      | error f =>
          obtain ⟨reason, rfl⟩ := told.refused f rfl
          exact ⟨_, rfl⟩
  | readOwner id =>
      rw [answer_readOwner]
      have told := owner_understood h
      refine ⟨?_, told.isOk⟩
      generalize understand _ _ _ = r at told
      cases r with
      | ok o => exact (told.read o rfl).1
      | error f =>
          obtain ⟨reason, rfl⟩ := told.refused f rfl
          exact ⟨_, rfl⟩
  | annotateOwner o entries =>
      obtain ⟨-, t, rfl⟩ := hcall
      rw [answer_annotateOwner]
      have told : Understood (fun _ => True) (.ownerUnpatched o) client.api.next
          (understand (.ownerUnpatched o) (fun _ => .ok ()) (client.api.next.map Reading.entity)) :=
        understood _ expected fun d _ => ⟨(), rfl, trivial⟩
      refine ⟨fun f hf => ?_, told.isOk⟩
      obtain ⟨reason, rfl⟩ := told.refused f hf
      exact ⟨_, rfl⟩
  | evict p gracePeriod =>
      obtain ⟨hp, rfl⟩ := hcall
      rw [answer_evict hc hp]
      obtain ⟨sorted, same, -⟩ := evictionAnswer_spec p expected
      exact ⟨sorted, same⟩

end Client

end NodeRelief
