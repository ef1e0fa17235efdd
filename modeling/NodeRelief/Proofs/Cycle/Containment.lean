import NodeRelief.Proofs.Api.Client
import NodeRelief.Proofs.Cycle.Annotations
import NodeRelief.Proofs.Cycle.Progress

/-! # Failures of the API

Any request of a cycle may fail. Whichever do, the cycle comes to a result: a list of nodes or pods that
could not be had is its error, a rate limit ends it, and every other failure costs no more than a candidate,
the cooldown of an owner or the report of an event. -/

namespace NodeRelief

variable {c : Config}

/-! ## Requests and their replies -/

namespace Exchange

variable (e : Exchange (Scene Client))

/-- The reply that the API has ready for the request of the exchange. -/
def due : Except Fault Document := e.before.cluster.api.next

/-- Whether the request of a call meets a failure that clients reckon with, or a document of the form that
the API gives to what is asked for. -/
def isAnswered (c : Config) : Bool :=
  match e.query with
  | .call call => call.isAnswered c e.due
  | _ => true

/-- Whether the nodes or the pods are asked for. -/
def lists : Bool :=
  match e.query with
  | .call .listNodes => true
  | .call .listPods => true
  | _ => false

/-- Whether an eviction is asked for and put off by a rate limit. -/
def isThrottled : Bool := e.query.evictee?.isSome && Client.isThrottled e.due

/-- The key of the pod whose eviction the API accepts. -/
def evictedKey? : Option String := if e.due.isOk then e.query.evictee?.map Pod.key else none

/-- Whether the budgets of a candidate could not be had, or its eviction failed without being put off. -/
def isLost : Bool :=
  match e.query with
  | .call (.listBudgets _) => !e.due.isOk
  | .call (.evict _ _) => !e.due.isOk && !Client.isThrottled e.due
  | _ => false

end Exchange

namespace Cycle

/-- What is left of a cycle whose requests failed. -/
structure Contained (c : Config) (profiles : ProfileStore) (s : Scene Client) (r : CycleResult)
    (l : List (Exchange (Scene Client))) : Prop where
  /-- An error is a failed list of nodes or pods. -/
  error : r.error.isSome = true ↔ ∃ e ∈ l, e.lists = true ∧ e.due.isOk = false
  /-- After an error nothing was changed. -/
  quiet : r.error.isSome = true → ∀ e ∈ l, e.query.isRead = true
  rateLimited : r.rateLimited = true ↔ ∃ e ∈ l, e.isThrottled = true
  /-- After a rate limit no other eviction is asked for. -/
  last : ∀ h e after, l = h ++ e :: after → e.isThrottled = true →
    ∀ x ∈ after, x.query.evictee? = none
  /-- The evicted pods are those whose evictions were accepted, whatever came after that. -/
  evicted : r.evicted = l.filterMap Exchange.evictedKey?
  /-- An eviction is asked for right after the budgets of the pod's namespace were had. -/
  checked : ∀ h e after p, l = h ++ e :: after → e.query.evictee? = some p →
    ∃ k b, h = k ++ [b] ∧ b.query = .call (.listBudgets p.ns) ∧ b.due.isOk = true
  /-- A candidate that is lost is reported at once, and what is left of the cycle then is the walk down
  the candidates that are ranked after it. -/
  movesOn : ∀ h e after, l = h ++ e :: after → e.isLost = true →
    ∃ p event s' rest, Setback c p e event ∧ after = ⟨s', .record event, .ok ()⟩ :: rest ∧
      Turns c profiles Client.world s (h ++ [e, ⟨s', .record event, .ok ()⟩]) p

variable {profiles : ProfileStore} {s s' : Scene Client} {l : List (Exchange (Scene Client))}

/-! ## What a reply tells of the request -/

/-- A sound query whose request was answered in form, and the client's answer to it. -/
structure Faithful (c : Config) (e : Exchange (Scene Client)) : Prop where
  sound : e.query.Sound c
  answered : e.isAnswered c = true
  told : e.reply = (Client.world.reply e.query e.before).1

namespace Faithful

variable {call : Call} {a : Except Fault call.Value} {e : Exchange (Scene Client)}

theorem isOk (hc : c.Sound) (h : Faithful c ⟨s, .call call, a⟩) :
    a.isOk = s.cluster.api.next.isOk := by
  have told : a = (Client.answer call s.cluster).1 := h.told
  rw [told]
  exact (Client.answer_spec hc h.sound h.answered).2

theorem isRateLimited {p : Pod} {g : Document} {a : Except Fault Unit} (hc : c.Sound)
    (h : Faithful c ⟨s, .call (.evict p g), a⟩) :
    isRateLimited a = Client.isThrottled s.cluster.api.next := by
  obtain ⟨hp, hg⟩ : p.Sound c ∧ g = c.gracePeriod := h.sound
  have told : a = (Client.answer (.evict p g) s.cluster).1 := h.told
  rw [told, hg, Client.answer_evict hc hp]
  exact (Client.evictionAnswer_spec p (Client.isExpected_of_isAnswered h.answered)).2.2

theorem isUnlisted (hc : c.Sound) (h : Faithful c e) :
    e.isUnlisted = (e.lists && !e.due.isOk) := by
  obtain ⟨s, q, a⟩ := e
  cases q with
  | call call =>
      have same : a.isOk = s.cluster.api.next.isOk := h.isOk hc
      cases call with
      | listNodes =>
          change _ = !s.cluster.api.next.isOk
          rw [← same]
          cases a <;> rfl
      | listPods =>
          change _ = !s.cluster.api.next.isOk
          rw [← same]
          cases a <;> rfl
      | _ => rfl
  | _ => rfl

theorem isSetback (hc : c.Sound) (h : Faithful c e) : e.isSetback = e.isLost := by
  obtain ⟨s, q, a⟩ := e
  cases q with
  | call call =>
      have same : a.isOk = s.cluster.api.next.isOk := h.isOk hc
      cases call with
      | listBudgets ns =>
          change _ = !s.cluster.api.next.isOk
          rw [← same]
          cases a <;> rfl
      | evict p g =>
          change _ = (!s.cluster.api.next.isOk && !Client.isThrottled s.cluster.api.next)
          rw [← same, ← h.isRateLimited hc]
          cases a <;> rfl
      | _ => rfl
  | _ => rfl

theorem isThrottled (hc : c.Sound) (h : Faithful c e) :
    (e.eviction?.any fun x => NodeRelief.isRateLimited x.2) = e.isThrottled := by
  obtain ⟨s, q, a⟩ := e
  cases q with
  | call call =>
      cases call with
      | evict p g => exact h.isRateLimited hc
      | _ => rfl
  | _ => rfl

theorem evictedKey? (hc : c.Sound) (h : Faithful c e) :
    e.eviction?.bind acceptedKey? = e.evictedKey? := by
  obtain ⟨s, q, a⟩ := e
  cases q with
  | call call =>
      cases call with
      | evict p g =>
          have same : a.isOk = s.cluster.api.next.isOk := h.isOk hc
          change acceptedKey? (p, a) = if s.cluster.api.next.isOk then some p.key else none
          rw [← same]
          cases a <;> rfl
      | _ => simp [Exchange.eviction?, Exchange.evictedKey?, Query.evictee?]
  | _ => simp [Exchange.eviction?, Exchange.evictedKey?, Query.evictee?]

end Faithful

/-- Every query that is asked in good order is answered sanely. -/
theorem sane_of_answered (hc : c.Sound) (hs : s.Equipped c) (ordered : Orderly c l)
    (hl : Client.world.Leads s l s') (answered : ∀ e ∈ l, e.isAnswered c = true) :
    ∀ e ∈ l, e.Sane c := by
  apply ordered.sane hl hs
  intro s q he equipped hq
  apply equipped.reply hq
  intro call hcall
  subst hcall
  exact (Client.answer_spec hc hq (answered _ he)).1

theorem Faithful.timely {id : OwnerId} {o : Owner}
    (h : Faithful c ⟨s, .call (.readOwner id), .ok o⟩) : Cooldown.Timely c.cooldownMark o := by
  have told : Except.ok o = (Client.answer (.readOwner id) s.cluster).1 := h.told
  rw [Client.answer_readOwner] at told
  exact ((Client.owner_understood h.answered).read o told.symm).2

/-- The deadlines of owners that are read in form break no cycle. -/
theorem not_breaks (hc : c.Sound) (faithful : ∀ e ∈ l, Faithful c e) (sane : ∀ e ∈ l, e.Sane c) :
    ¬ Breaks c l := by
  intro breaks
  cases breaks with
  | unreadable hd =>
      have timely := (faithful _ (List.mem_append_right _ (List.mem_singleton_self _))).timely
      obtain ⟨previous, hd', -⟩ := timely.deadline_isOk hc.cooldownMark
      rw [hd] at hd'
      cases hd'
  | @endless l k p o bs node now previous s₀ s₁ s₂ s₃ hk hd hn =>
      obtain ⟨k, s, id, rfl⟩ := hk.resolves.last
      have timely : Cooldown.Timely c.cooldownMark o :=
        (faithful ⟨s, .call (.readOwner id), .ok o⟩ (by simp)).timely
      obtain ⟨_, ⟨⟩, ahead⟩ : (Query.clock).Accepts c (.ok now) := sane ⟨s₃, .clock, .ok now⟩ (by simp)
      exact timely.next?_ne_none hc.cooldownMark ahead hd hn

section Readings

variable {r : CycleResult} (hc : c.Sound) (faithful : ∀ e ∈ l, Faithful c e)

include hc faithful

theorem accepted_eq : accepted l = l.filterMap Exchange.evictedKey? := by
  rw [accepted, evictions, List.filterMap_filterMap]
  exact List.filterMap_congr fun e he => (faithful e he).evictedKey? hc

theorem exists_unlisted_iff :
    (∃ e ∈ l, e.isUnlisted = true) ↔ ∃ e ∈ l, e.lists = true ∧ e.due.isOk = false := by
  apply exists_congr
  intro e
  apply and_congr_right
  intro he
  rw [(faithful e he).isUnlisted hc, Bool.and_eq_true, Bool.not_eq_true']

theorem exists_rateLimited_iff :
    (∃ x ∈ evictions l, isRateLimited x.2 = true) ↔ ∃ e ∈ l, e.isThrottled = true := by
  constructor
  · rintro ⟨x, hx, limited⟩
    obtain ⟨e, he, asked⟩ := List.mem_filterMap.mp hx
    refine ⟨e, he, ?_⟩
    rw [← (faithful e he).isThrottled hc, asked]
    exact limited
  · rintro ⟨e, he, throttled⟩
    rw [← (faithful e he).isThrottled hc, Option.any_eq_true] at throttled
    obtain ⟨x, asked, limited⟩ := throttled
    exact ⟨x, List.mem_filterMap.mpr ⟨e, he, asked⟩, limited⟩

theorem contained_of_closes (run : l = ((reconcile c profiles).run Client.world s).exchanges)
    (closes : Closes c profiles Client.world s (.ok r) l) : Contained c profiles s r l := by
  obtain ⟨balances, movesOn⟩ := closes
  refine ⟨balances.error.trans (exists_unlisted_iff hc faithful), balances.quiet,
    balances.rateLimited.trans (exists_rateLimited_iff hc faithful), ?_,
    balances.evicted.trans (accepted_eq hc faithful), ?_, ?_⟩
  · intro h e after hl throttled x hx
    rw [← (faithful e (by simp [hl])).isThrottled hc, Option.any_eq_true] at throttled
    obtain ⟨asked, he, limited⟩ := throttled
    have requests : evictions l = evictions h ++ asked :: evictions after := by
      rw [hl, evictions_append, evictions, evictions, List.filterMap_cons_some he]
      rfl
    have none := balances.last _ _ _ requests limited
    rw [x.evictee?_eq, List.filterMap_eq_nil_iff.mp none x hx]
    rfl
  · intro h e after p hl asked
    obtain ⟨g, hq⟩ := Query.evictee?_eq_some_iff.mp asked
    have checked := balances.checked
    rw [hl] at checked
    obtain ⟨k, s, bs, rfl⟩ := checked.of_append_cons p g hq
    have listed := (faithful ⟨s, .call (.listBudgets p.ns), .ok bs⟩ (by simp [hl])).isOk hc
    exact ⟨k, _, rfl, rfl, listed.symm⟩
  · intro h e after hl lost
    rw [← (faithful e (by simp [hl])).isSetback hc] at lost
    rw [hl] at movesOn
    obtain ⟨p, event, s', given, turns⟩ := movesOn.of_append_cons lost
    obtain ⟨rest, split⟩ := turns.isPrefix
    rw [← run, hl] at split
    have after_eq : after = ⟨s', .record event, .ok ()⟩ :: rest := by simpa using split
    exact ⟨p, event, s', rest, given, after_eq, turns⟩

end Readings

/-- Whichever requests of a cycle fail, it comes to a result and its failures are contained. -/
theorem failures_contained (c : Config) (profiles : ProfileStore) (s : Scene Client)
    (hc : c.Sound) (hprofiles : profiles.Sound) (hs : s.Equipped c)
    (answered : ∀ e ∈ ((reconcile c profiles).run Client.world s).exchanges, e.isAnswered c = true) :
    ∃ r, ((reconcile c profiles).run Client.world s).outcome = .ok r ∧
      Contained c profiles s r ((reconcile c profiles).run Client.world s).exchanges := by
  have hl := World.Leads.run Client.world (reconcile c profiles) s
  have conducts := conducts_reconcile hc hprofiles Client.world s
  have closes := closes_reconcile c profiles Client.world s
  have sane := sane_of_answered hc hs conducts.1 hl answered
  have faithful : ∀ e ∈ ((reconcile c profiles).run Client.world s).exchanges, Faithful c e :=
    fun e he => ⟨conducts.1.sound sane e he, answered e he, hl.reply_eq he⟩
  have ends := conducts.2 sane
  cases ho : ((reconcile c profiles).run Client.world s).outcome with
  | ok r =>
      rw [ho] at closes
      exact ⟨r, rfl, contained_of_closes hc faithful rfl closes⟩
  | error f =>
      rw [ho] at ends
      exact absurd ends (not_breaks hc faithful sane)

/-! ## A cycle with four failures -/

namespace Sample

def named (name : String) (fields : List (String × Document)) : Document :=
  .object (("name", .text name) :: fields)

def nodeObject (name : String) : Document :=
  .object [("metadata", named name [("annotations", .object [(degradedMarkName, "true")])])]

def reference : Document :=
  named "web" [("kind", "Deployment"), ("controller", .bool true), ("api_version", "apps/v1")]

/-- A running pod of the deployment on a node. -/
def podObject (name node : String) : Document :=
  .object [
    ("metadata", named name [("namespace", "shop"), ("owner_references", .list [reference])]),
    ("spec", .object [("node_name", .text node)]),
    ("status", .object [("phase", "Running")])]

def ownerObject : Document := .object [("metadata", named "web" [("namespace", "shop")])]

def listObject (items : List Document) : Document := .object [("items", .list items)]

/-- Three degraded nodes with a pod each. The owner of the first pod cannot be read and its eviction
fails, the second is evicted but its owner cannot be patched, and the third is put off. -/
def replies : List (Except Fault Document) := [
  .ok (listObject [nodeObject "node-a", nodeObject "node-b", nodeObject "node-c"]),
  .ok (listObject [podObject "web-1" "node-a", podObject "web-2" "node-b", podObject "web-3" "node-c"]),
  .error (.transport "timed out"), .ok (listObject []), .error (.api (.int 500) .null),
  .ok ownerObject, .ok (listObject []), .ok .null, .error (.api (.int 409) "Conflict"),
  .ok ownerObject, .ok (listObject []), .error (.api (.int 429) "Too Many Requests")]

/-- A cycle that may evict more than one pod. -/
def patientConfig : Config :=
  ⟨{ evictUnprofiled := .bool true, single := .bool false }, by decide, by decide⟩

/-- A client of that API, and events that can never be published. -/
def failingScene : Scene Client :=
  ⟨⟨.scripted replies, .int 30⟩, .publisher ⟨.scripted [], "kube-balance-controller", .int 30, []⟩,
    .ofList [1714564800000000], none⟩

theorem failingScene_equipped : failingScene.Equipped patientConfig where
  recorder := ⟨rfl, fun r hr => (by cases hr), rfl⟩
  clock := by
    simp only [Clock.Ticks]
    decide

end Sample

open Sample in
theorem failures_contained_sample :
    ∃ r, ((reconcile patientConfig Sample.profiles).run Client.world failingScene).outcome = .ok r ∧
      r.evicted = ["shop/web-2"] ∧ r.rateLimited = true ∧
      Contained patientConfig Sample.profiles failingScene r
        ((reconcile patientConfig Sample.profiles).run Client.world failingScene).exchanges := by
  have sound : patientConfig.Sound := ⟨by decide, by decide, by decide, by decide⟩
  have answered : ∀ e ∈ ((reconcile patientConfig Sample.profiles).run Client.world failingScene).exchanges,
      e.isAnswered patientConfig = true := by
    rw [← List.all_eq_true]
    decide +kernel
  obtain ⟨r, hr, contained⟩ := failures_contained patientConfig Sample.profiles failingScene sound
    profiles_sound failingScene_equipped answered
  refine ⟨r, hr, ?_, ?_, contained⟩
  · rw [contained.evicted]
    decide +kernel
  · rw [contained.rateLimited, ← List.any_eq_true]
    decide +kernel

end Cycle

end NodeRelief
