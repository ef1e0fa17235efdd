import NodeRelief.Api.Client
import NodeRelief.Proofs.Cycle.Gate

/-! # One hop to the owner

An owner is looked up once, and once more if it is a replica set that a deployment controls. Which owners
these are is told by the references alone, and by the rules below, which do not mention the search
through them. -/

namespace NodeRelief

variable {σ : Type}

/-! ## References -/

/-- The first item of a list that has a property. -/
def First {α : Type} (P : α → Prop) (l : List α) (a : α) : Prop :=
  P a ∧ ∃ before after, l = before ++ a :: after ∧ ∀ b ∈ before, ¬ P b

theorem OwnerKind.ofDocument?_eq_some_iff {d : Document} {kind : OwnerKind} :
    ofDocument? d = some kind ↔ d = .text kind.text := by
  have distinct : (all.map fun kind => Document.text kind.text).Nodup := by decide
  have known : kind ∈ all := by cases kind <;> decide
  rw [ofDocument?, Register.find?_key_eq_some_iff distinct, and_iff_right known, eq_comm]

/-- A controller of a managed kind. -/
def OwnerReference.Managed (r : OwnerReference) : Prop :=
  r.controller.isTruthy = true ∧ ∃ kind : OwnerKind, r.kind = .text kind.text

/-- Whether the first controller of an owner is a deployment of that name. -/
def Owner.DeployedBy (o : Owner) (name : Document) : Prop :=
  ∃ r, First (·.controller.isTruthy = true) o.owners r ∧
    r.kind = .text OwnerKind.deployment.text ∧ r.name = name

namespace Ownership

variable {p : Pod} {o : Owner} {kind : OwnerKind} {name : Document}

/-- What the search for a managed controller makes of one reference. -/
theorem managed?_eq_some_iff {r : OwnerReference} :
    (if r.controller.isTruthy then (OwnerKind.ofDocument? r.kind).map (·, r.name) else none) =
      some (kind, name) ↔ r.controller.isTruthy = true ∧ r.kind = .text kind.text ∧ r.name = name := by
  simp [OwnerKind.ofDocument?_eq_some_iff]

theorem managed?_eq_none_iff {r : OwnerReference} :
    (if r.controller.isTruthy then (OwnerKind.ofDocument? r.kind).map (·, r.name) else none) = none ↔
      ¬ r.Managed := by
  simp [Option.eq_none_iff_forall_ne_some, OwnerKind.ofDocument?_eq_some_iff, OwnerReference.Managed]

theorem reference?_eq_some_iff : reference? p = some (kind, name) ↔
    ∃ r, First OwnerReference.Managed p.owners r ∧ r.kind = .text kind.text ∧ r.name = name := by
  simp only [reference?, List.findSome?_eq_some_iff, managed?_eq_some_iff, managed?_eq_none_iff]
  constructor
  · rintro ⟨before, r, after, split, ⟨controls, hkind, hname⟩, passed⟩
    exact ⟨r, ⟨⟨controls, kind, hkind⟩, before, after, split, passed⟩, hkind, hname⟩
  · rintro ⟨r, ⟨⟨controls, -⟩, before, after, split, passed⟩, hkind, hname⟩
    exact ⟨before, r, after, split, ⟨controls, hkind, hname⟩, passed⟩

theorem reference?_eq_none_iff : reference? p = none ↔ ∀ r ∈ p.owners, ¬ r.Managed := by
  simp only [reference?, List.findSome?_eq_none_iff, managed?_eq_none_iff]

theorem parent?_eq_some_iff : parent? o = some name ↔ o.DeployedBy name := by
  have first (r : OwnerReference) :
      controllerOf o.owners = some r ↔ First (·.controller.isTruthy = true) o.owners r := by
    simp [controllerOf, List.find?_eq_some_iff_append, First]
  simp only [Owner.DeployedBy, ← first]
  rw [parent?]
  cases controllerOf o.owners with
  | none => simp
  | some r => simp

theorem successor?_eq_some_iff :
    successor? kind o = some name ↔ kind = .replicaSet ∧ o.DeployedBy name := by
  simp [successor?, parent?_eq_some_iff]

/-! ## Rules -/

/-- How the owner of a pod is found out: without a lookup, with one or with two. -/
inductive Resolution (w : World σ) (p : Pod) (s : σ) : Run σ (Except Fault (Option Owner)) → Prop where
  | unmanaged (h : ∀ r ∈ p.owners, ¬ r.Managed) : Resolution w p s ⟨.ok (.ok none), s, []⟩
  | unread {r kind f s'} (first : First OwnerReference.Managed p.owners r)
      (hkind : r.kind = .text kind.text)
      (read : w.reply (.call (.readOwner ⟨kind, p.ns, r.name⟩)) s = (.error f, s')) :
      Resolution w p s
        ⟨.ok (.error f), s', [⟨s, .call (.readOwner ⟨kind, p.ns, r.name⟩), .error f⟩]⟩
  | direct {r kind o s'} (first : First OwnerReference.Managed p.owners r)
      (hkind : r.kind = .text kind.text)
      (read : w.reply (.call (.readOwner ⟨kind, p.ns, r.name⟩)) s = (.ok o, s'))
      (stays : kind = .replicaSet → ∀ name, ¬ o.DeployedBy name) :
      Resolution w p s
        ⟨.ok (.ok (some o)), s', [⟨s, .call (.readOwner ⟨kind, p.ns, r.name⟩), .ok o⟩]⟩
  | through {r o name answer s' s''} (first : First OwnerReference.Managed p.owners r)
      (hkind : r.kind = .text OwnerKind.replicaSet.text)
      (read : w.reply (.call (.readOwner ⟨.replicaSet, p.ns, r.name⟩)) s = (.ok o, s'))
      (deployed : o.DeployedBy name)
      (next : w.reply (.call (.readOwner ⟨.deployment, p.ns, name⟩)) s' = (answer, s'')) :
      Resolution w p s
        ⟨.ok (answer.map some), s'', [⟨s, .call (.readOwner ⟨.replicaSet, p.ns, r.name⟩), .ok o⟩,
          ⟨s', .call (.readOwner ⟨.deployment, p.ns, name⟩), answer⟩]⟩

variable {w : World σ} {s : σ} {run : Run σ (Except Fault (Option Owner))}

theorem Resolution.run_eq (h : Resolution w p s run) : (resolve p).run w s = run := by
  cases h with
  | unmanaged h => rw [resolve, reference?_eq_none_iff.mpr h]; rfl
  | unread first hkind read =>
      rw [resolve, reference?_eq_some_iff.mpr ⟨_, first, hkind, rfl⟩]
      simp only [Plan.run_bind, Plan.call, Plan.run, read]
      rfl
  | @direct r kind o s' first hkind read stays =>
      rw [resolve, reference?_eq_some_iff.mpr ⟨_, first, hkind, rfl⟩]
      simp only [Plan.run_bind, Plan.call, Plan.run, read]
      cases kind with
      | replicaSet =>
          have undeployed : parent? o = none := by
            rw [Option.eq_none_iff_forall_ne_some]
            exact fun name deployed => stays rfl name (parent?_eq_some_iff.mp deployed)
          simp only [undeployed]
          rfl
      | deployment | statefulSet => rfl
  | @through r o name answer s' s'' first hkind read deployed next =>
      rw [resolve, reference?_eq_some_iff.mpr ⟨_, first, hkind, rfl⟩]
      simp only [Plan.run_bind, Plan.call, Plan.run, read, parent?_eq_some_iff.mpr deployed, next]
      rfl

theorem resolution (w : World σ) (p : Pod) (s : σ) : Resolution w p s ((resolve p).run w s) := by
  obtain ⟨r, hr, resolves⟩ := resolves_of_course (.run w (resolve p) s)
  have leads := World.Leads.run w (resolve p) s
  generalize (resolve p).run w s = run at hr resolves leads
  obtain ⟨outcome, s', l⟩ := run
  subst hr
  cases resolves with
  | unmanaged h =>
      obtain rfl := leads
      exact .unmanaged (reference?_eq_none_iff.mp h)
  | unread h s₀ f =>
      obtain ⟨rfl, s₁, read, rfl⟩ := World.Leads.cons_iff.mp leads
      obtain ⟨r, first, hkind, rfl⟩ := reference?_eq_some_iff.mp h
      exact .unread first hkind read
  | direct h hs s₀ =>
      obtain ⟨rfl, s₁, read, rfl⟩ := World.Leads.cons_iff.mp leads
      obtain ⟨r, first, hkind, rfl⟩ := reference?_eq_some_iff.mp h
      refine .direct first hkind read fun hk name deployed => ?_
      rw [successor?_eq_some_iff.mpr ⟨hk, deployed⟩] at hs
      cases hs
  | through h hs s₀ s₁ answer =>
      obtain ⟨rfl, s₂, read, leads⟩ := World.Leads.cons_iff.mp leads
      obtain ⟨rfl, s₃, next, rfl⟩ := World.Leads.cons_iff.mp leads
      obtain ⟨r, first, hkind, rfl⟩ := reference?_eq_some_iff.mp h
      obtain ⟨rfl, deployed⟩ := successor?_eq_some_iff.mp hs
      exact .through first hkind read deployed next

theorem resolution_iff : Resolution w p s run ↔ (resolve p).run w s = run :=
  ⟨Resolution.run_eq, fun h => h ▸ resolution w p s⟩

/-! ## Failed lookups -/

theorem Resolution.failed_iff (h : Resolution w p s run) {f : Fault} : run.outcome = .ok (.error f) ↔
    ∃ s₀ id, ⟨s₀, .call (.readOwner id), .error f⟩ ∈ run.exchanges := by
  cases h with
  | unmanaged h => simp
  | unread first hkind read => simp [eq_comm]
  | direct first hkind read stays => simp
  | @through r o name answer s' s'' first hkind read deployed next =>
      cases answer <;> simp [Except.map, eq_comm]

end Ownership

/-! ## What is found -/

/-- What is read of an owner is of the kind that was asked for. -/
def World.TellsKinds (w : World σ) : Prop :=
  ∀ id s o s', w.reply (.call (.readOwner id)) s = (.ok o, s') → o.kind = id.kind

theorem Cluster.tellsKinds : Cluster.world.TellsKinds := by
  intro id s o s' h
  have read : s.cluster.readOwner id = .ok o := congrArg Prod.fst h
  have identity := (Register.mem_of_find? (owner?_of_readOwner read)).2
  exact congrArg OwnerId.kind identity

/-- A lookup that fails is told as a failed lookup, unless what is looked up cannot be a key. -/
def World.RefusesLookups (w : World σ) : Prop :=
  ∀ id s f s', id.isKey = true → w.reply (.call (.readOwner id)) s = (.error f, s') →
    ∃ message, f = .ownerLookup message

theorem Cluster.refusesLookups : Cluster.world.RefusesLookups := by
  intro id s f s' key h
  have read : s.cluster.readOwner id = .error f := congrArg Prod.fst h
  exact readOwner_eq_error key read

theorem Reading.kind_of_owner {kind : OwnerKind} {d : Document} {o : Owner}
    (h : owner kind d = .ok o) : o.kind = kind := by
  simp only [owner, Fault.bind_eq_ok_iff, Fault.pure_eq_ok_iff] at h
  obtain ⟨_, -, _, -, _, -, _, -, _, -, _, -, _, -, _, -, _, -, rfl⟩ := h
  rfl

theorem Client.tellsKinds : Client.world.TellsKinds := by
  intro id s o s' h
  have read : understand (.ownerUnread id) (Reading.owner id.kind) (s.cluster.send (.readOwner id)).1 =
      .ok o := congrArg Prod.fst h
  cases hr : (s.cluster.send (.readOwner id)).1 with
  | ok d =>
      rw [hr] at read
      exact Reading.kind_of_owner read
  | error f =>
      rw [hr, understand] at read
      cases hf : f.clientError? <;> simp [hf] at read

namespace Ownership

variable {p : Pod} {w : World σ} {s : σ} {run : Run σ (Except Fault (Option Owner))}

/-- No replica set is found that a deployment controls. -/
theorem Resolution.not_deployed (h : Resolution w p s run) (tells : w.TellsKinds) {o : Owner}
    (found : run.outcome = .ok (.ok (some o))) : ¬ (o.kind = .replicaSet ∧ ∃ name, o.DeployedBy name) := by
  rintro ⟨hk, name, deployed⟩
  cases h with
  | unmanaged h => cases found
  | unread first hkind read => cases found
  | direct first hkind read stays =>
      cases found
      exact stays ((tells _ _ _ _ read).symm.trans hk) name deployed
  | @through r o name answer s' s'' first hkind read deployed next =>
      cases answer with
      | error f => cases found
      | ok d =>
          cases found
          rw [tells _ _ _ _ next] at hk
          cases hk

/-! ## One deployment -/

/-- The pod leads to the deployment of that name: its controller is the deployment, or a replica set that
the deployment controls. -/
inductive LeadsTo (w : World σ) (s : σ) (p : Pod) : Document → Prop where
  | direct {r} (first : First OwnerReference.Managed p.owners r)
      (hkind : r.kind = .text OwnerKind.deployment.text) : LeadsTo w s p r.name
  | through {r o name s'} (first : First OwnerReference.Managed p.owners r)
      (hkind : r.kind = .text OwnerKind.replicaSet.text)
      (read : w.reply (.call (.readOwner ⟨.replicaSet, p.ns, r.name⟩)) s = (.ok o, s'))
      (deployed : o.DeployedBy name) : LeadsTo w s p name

/-- The deployment is what is looked up last, at first or after the replica set, and what is told of it is
the owner. -/
theorem LeadsTo.outcome {name : Document} (h : LeadsTo w s p name) : ∃ l s',
    (s' = s ∨ ∃ id, s' = (w.reply (.call (.readOwner id)) s).2) ∧
      ((resolve p).run w s).exchanges = l ++ [⟨s', .call (.readOwner ⟨.deployment, p.ns, name⟩),
        (w.reply (.call (.readOwner ⟨.deployment, p.ns, name⟩)) s').1⟩] ∧
      ((resolve p).run w s).outcome =
        .ok ((w.reply (.call (.readOwner ⟨.deployment, p.ns, name⟩)) s').1.map some) := by
  cases h with
  | @direct r first hkind =>
      refine ⟨[], s, .inl rfl, ?_⟩
      cases hread : w.reply (.call (.readOwner ⟨.deployment, p.ns, r.name⟩)) s with
      | mk answer s' => cases answer with
        | error f =>
            rw [(Resolution.unread first hkind hread).run_eq]
            exact ⟨rfl, rfl⟩
        | ok o =>
            rw [(Resolution.direct first hkind hread nofun).run_eq]
            exact ⟨rfl, rfl⟩
  | @through r o name s' first hkind read deployed =>
      refine ⟨[⟨s, .call (.readOwner ⟨.replicaSet, p.ns, r.name⟩), .ok o⟩], s', .inr ⟨_, by rw [read]⟩, ?_⟩
      rw [(Resolution.through first hkind read deployed rfl).run_eq]
      exact ⟨rfl, rfl⟩

end Ownership

/-- As long as `I` holds, which no lookup changes, a lookup tells what `read` does. -/
structure World.Steady (w : World σ) (I : σ → Prop) (read : OwnerId → Except Fault Owner) : Prop where
  told : ∀ id s, I s → (w.reply (.call (.readOwner id)) s).1 = read id
  kept : ∀ id s, I s → I (w.reply (.call (.readOwner id)) s).2

/-- A cluster in memory does not change by what is read from it. -/
theorem World.Hosts.steady {w : World σ} {view : σ → Cluster} (hosts : w.Hosts view) (c : Cluster) :
    w.Steady (fun s => view s = c) c.readOwner where
  told id s h := by
    rw [← h]
    exact (congrArg Prod.fst (hosts.call (.readOwner id) s)).symm
  kept id s h := (hosts.reply_of_isRead rfl s).trans h

namespace Ownership

section

variable {w : World σ} {p : Pod} {s : σ}

theorem LeadsTo.outcome_of_steady {I : σ → Prop} {read : OwnerId → Except Fault Owner} {name : Document}
    (h : LeadsTo w s p name) (steady : w.Steady I read) (hs : I s) :
    ((resolve p).run w s).outcome = .ok ((read ⟨.deployment, p.ns, name⟩).map some) := by
  obtain ⟨l, s', reached, -, outcome⟩ := h.outcome
  have kept : I s' := by
    rcases reached with rfl | ⟨id, rfl⟩
    · exact hs
    · exact steady.kept id s hs
  rw [outcome, steady.told _ s' kept]

end

/-- The owner of a pod is found by the rules, with two lookups at most. Resolving fails just where a lookup
does, and with the fault of that lookup; what is found is never a replica set that a deployment controls.
Pods of a namespace that lead to one deployment come to the same answer about it, as long as the answers
to lookups do not change. -/
theorem owner_within_one_hop (w : World σ) (p : Pod) (s : σ) :
    (∀ run, (resolve p).run w s = run ↔ Resolution w p s run) ∧
    (∀ f, ((resolve p).run w s).outcome = .ok (.error f) ↔
      ∃ s₀ id, ⟨s₀, .call (.readOwner id), .error f⟩ ∈ ((resolve p).run w s).exchanges) ∧
    (w.RefusesLookups →
      (∀ s₀ id r, ⟨s₀, .call (.readOwner id), r⟩ ∈ ((resolve p).run w s).exchanges → id.isKey = true) →
      ((∃ message, ((resolve p).run w s).outcome = .ok (.error (.ownerLookup message))) ↔
        ∃ s₀ id f, ⟨s₀, .call (.readOwner id), .error f⟩ ∈ ((resolve p).run w s).exchanges)) ∧
    (w.TellsKinds → ∀ o, ((resolve p).run w s).outcome = .ok (.ok (some o)) →
      ¬ (o.kind = .replicaSet ∧ ∃ name, o.DeployedBy name)) ∧
    (∀ name, LeadsTo w s p name → ∃ l s' answer,
      ((resolve p).run w s).exchanges =
        l ++ [⟨s', .call (.readOwner ⟨.deployment, p.ns, name⟩), answer⟩] ∧
      ((resolve p).run w s).outcome = .ok (answer.map some)) ∧
    ∀ I read, w.Steady I read → I s → ∀ q s', I s' → q.ns = p.ns → ∀ name,
      LeadsTo w s p name → LeadsTo w s' q name →
      ((resolve p).run w s).outcome = ((resolve q).run w s').outcome := by
  have rules := resolution w p s
  refine ⟨fun run => resolution_iff.symm, fun f => rules.failed_iff, fun refuses keys => ?_,
    fun tells o => rules.not_deployed tells, fun name leads => ?_, ?_⟩
  · constructor
    · rintro ⟨message, failed⟩
      obtain ⟨s₀, id, lookup⟩ := rules.failed_iff.mp failed
      exact ⟨s₀, id, _, lookup⟩
    · rintro ⟨s₀, id, f, lookup⟩
      have reply := (World.Leads.run w (resolve p) s).reply_eq lookup
      obtain ⟨message, rfl⟩ := refuses id s₀ f _ (keys _ _ _ lookup) (Prod.ext reply.symm rfl)
      exact ⟨message, rules.failed_iff.mpr ⟨s₀, id, lookup⟩⟩
  · obtain ⟨l, s', -, told⟩ := leads.outcome
    exact ⟨l, s', _, told⟩
  · intro I read steady hs q s' hs' ns name leads leads'
    rw [leads.outcome_of_steady steady hs, leads'.outcome_of_steady steady hs', ns]

namespace Sample

def reference (kind : OwnerKind) (name : String) : OwnerReference :=
  ⟨kind.text, name, .bool true, "apps/v1", .null⟩

def owner (kind : OwnerKind) (name : String) (owners : List OwnerReference) : Owner :=
  ⟨kind, name, "shop", .empty, owners, .null, .null⟩

def pod (name : String) (owners : List OwnerReference) : Pod :=
  ⟨name, "shop", "node-a", .running, [], .empty, owners, .null⟩

/-- A deployment with two replica sets. -/
def cluster : Cluster :=
  { Cluster.empty with owners := .ofList [
    owner .deployment "web" [],
    owner .replicaSet "web-1" [reference .deployment "web"],
    owner .replicaSet "web-2" [reference .deployment "web"]] }

def scene : Scene Cluster := ⟨cluster, .memory [], .ofList [], none⟩

/-- A pod whose references also name a controller of another kind. -/
def first : Pod := pod "a" [⟨"Job", "web", .bool true, "batch/v1", .null⟩, reference .replicaSet "web-1"]

def second : Pod := pod "b" [reference .replicaSet "web-2"]

def stray : Pod := pod "c" [reference .statefulSet "db"]

theorem first_of_single {P : OwnerReference → Prop} {r : OwnerReference} (h : P r) : First P [r] r :=
  ⟨h, [], [], rfl, by simp⟩

theorem managed (kind : OwnerKind) (name : String) : (reference kind name).Managed := ⟨rfl, kind, rfl⟩

theorem deployed (name : String) :
    (owner .replicaSet name [reference .deployment "web"]).DeployedBy (.text "web") :=
  ⟨_, first_of_single rfl, rfl, rfl⟩

theorem first_leads : LeadsTo Cluster.world scene first (.text "web") := by
  refine .through (r := reference .replicaSet "web-1") ⟨managed _ _, [_], [], rfl, ?_⟩ rfl rfl (deployed "web-1")
  rintro r hr ⟨-, kind, hkind⟩
  obtain rfl := List.mem_singleton.mp hr
  cases kind <;> exact absurd hkind (by decide)

theorem second_leads : LeadsTo Cluster.world scene second (.text "web") :=
  .through (first_of_single (managed _ _)) rfl rfl (deployed "web-2")

end Sample

open Sample in
/-- Pods of two replica sets have one owner, and a pod whose owner is not there has none to tell. -/
theorem owner_within_one_hop_sample :
    LeadsTo Cluster.world scene first "web" ∧ LeadsTo Cluster.world scene second "web" ∧
      ((resolve first).run Cluster.world scene).outcome =
        ((resolve second).run Cluster.world scene).outcome ∧
      (∀ o, ((resolve first).run Cluster.world scene).outcome = .ok (.ok (some o)) →
        ¬ (o.kind = .replicaSet ∧ ∃ name, o.DeployedBy name)) ∧
      ∃ message, ((resolve stray).run Cluster.world scene).outcome = .ok (.error (.ownerLookup message)) := by
  obtain ⟨-, -, -, never, -, same⟩ := owner_within_one_hop Cluster.world first scene
  obtain ⟨-, -, raises, -⟩ := owner_within_one_hop Cluster.world stray scene
  have lookups : ((resolve stray).run Cluster.world scene).exchanges =
      [⟨scene, .call (.readOwner ⟨.statefulSet, "shop", "db"⟩),
        .error (.ownerUnread ⟨.statefulSet, "shop", "db"⟩ "not found")⟩] := rfl
  rw [lookups] at raises
  refine ⟨first_leads, second_leads, ?_, never Cluster.tellsKinds, ?_⟩
  · exact same _ _ (Cluster.hosts.steady cluster) rfl second scene rfl rfl "web" first_leads second_leads
  · refine (raises Cluster.refusesLookups ?_).mpr ⟨_, _, _, List.mem_singleton_self _⟩
    rintro s₀ id r lookup
    cases List.mem_singleton.mp lookup
    rfl

end Ownership

end NodeRelief
