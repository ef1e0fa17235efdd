import NodeRelief.Plan
import Mathlib.Data.List.Basic
import Mathlib.Tactic.Common

/-! # Reasoning about plans

A run is followed from exchange to exchange: an assertion looks at the outcome, at the exchanges so
far and at the state. A property of exchanges may look back at everything that was asked before. -/

namespace NodeRelief

variable {α β σ : Type}

namespace Plan

/-! ## Plans as programs -/

theorem bind_done (p : Plan α) : p.bind .done = p := by
  induction p with
  | done a => rfl
  | fail f => rfl
  | ask q k ih => exact congrArg (Plan.ask q) (funext ih)

protected theorem bind_assoc {γ : Type} (p : Plan α) (k : α → Plan β) (k' : β → Plan γ) :
    (p.bind k).bind k' = p.bind fun a => (k a).bind k' := by
  induction p with
  | done a => rfl
  | fail f => rfl
  | ask q k ih => exact congrArg (Plan.ask q) (funext ih)

instance : LawfulMonad Plan :=
  .mk' Plan bind_done (fun _ _ => rfl) Plan.bind_assoc

/-! ## Courses -/

/-- The exchanges of a plan and its outcome, whatever the replies and the states. -/
inductive Course {σ : Type} : Plan α → List (Exchange σ) → Except Fault α → Prop where
  | done (a : α) : Course (.done a) [] (.ok a)
  | fail (f : Fault) : Course (.fail f) [] (.error f)
  | ask {q : Query} {k : q.Reply → Plan α} {l o} (s : σ) (r : q.Reply) (h : Course (k r) l o) :
      Course (.ask q k) (⟨s, q, r⟩ :: l) o

namespace Course

variable {l : List (Exchange σ)} {o : Except Fault α}

theorem run (w : World σ) (p : Plan α) (s : σ) :
    Course p (p.run w s).exchanges (p.run w s).outcome := by
  induction p generalizing s with
  | done a => exact .done a
  | fail f => exact .fail f
  | ask q k ih => exact .ask s _ (ih _ _)

theorem pure_iff {a : α} : Course (pure a : Plan α) l o ↔ l = [] ∧ o = .ok a := by
  constructor
  · intro h
    cases h
    exact ⟨rfl, rfl⟩
  · rintro ⟨rfl, rfl⟩
    exact .done a

theorem fail_iff {f : Fault} : Course (Plan.fail f : Plan α) l o ↔ l = [] ∧ o = .error f := by
  constructor
  · intro h
    cases h
    exact ⟨rfl, rfl⟩
  · rintro ⟨rfl, rfl⟩
    exact .fail f

theorem raise_iff {r : Except Fault α} : Course (raise r) l o ↔ l = [] ∧ o = r := by
  cases r with
  | ok a => exact pure_iff
  | error f => exact fail_iff

/-- A sequence of plans comes to an end in its first part or in its second. -/
theorem bind_cases {p : Plan β} {k : β → Plan α} (h : Course (p >>= k) l o) :
    (∃ f, Course p l (.error f) ∧ o = .error f) ∨
      ∃ b l₁ l₂, l = l₁ ++ l₂ ∧ Course p l₁ (.ok b) ∧ Course (k b) l₂ o := by
  induction p generalizing l with
  | done b => exact .inr ⟨b, [], l, rfl, .done b, h⟩
  | fail f =>
      obtain ⟨rfl, rfl⟩ := fail_iff.mp h
      exact .inl ⟨f, .fail f, rfl⟩
  | ask q next ih =>
      cases h with
      | ask s r h =>
        rcases ih r h with ⟨f, hf, rfl⟩ | ⟨b, l₁, l₂, rfl, h₁, h₂⟩
        · exact .inl ⟨f, .ask s r hf, rfl⟩
        · exact .inr ⟨b, ⟨s, q, r⟩ :: l₁, l₂, rfl, .ask s r h₁, h₂⟩

/-! A query stands first among the exchanges of the plan that begins with it. -/

theorem call_cases {c : Call} {k : Except Fault c.Value → Plan α}
    (h : Course (Plan.call c >>= k) l o) :
    ∃ s r l', l = ⟨s, .call c, r⟩ :: l' ∧ Course (k r) l' o := by
  cases h with
  | ask s r h => exact ⟨s, r, _, rfl, h⟩

theorem cancelled_cases {k : Bool → Plan α} (h : Course (Plan.cancelled >>= k) l o) :
    ∃ s r l', l = ⟨s, .cancelled, r⟩ :: l' ∧ Course (k r) l' o := by
  cases h with
  | ask s r h => exact ⟨s, r, _, rfl, h⟩

theorem record_iff {e : Event} {o : Except Fault Unit} :
    Course (Plan.record e) l o ↔ ∃ s, l = [⟨s, .record e, o⟩] := by
  constructor
  · intro h
    cases h with
    | ask s r h =>
      obtain ⟨rfl, rfl⟩ := raise_iff.mp h
      exact ⟨s, rfl⟩
  · rintro ⟨s, rfl⟩
    exact .ask (q := .record e) (k := raise) s o (raise_iff.mpr ⟨rfl, rfl⟩)

theorem clock_iff {o : Except Fault Instant} :
    Course Plan.clock l o ↔ ∃ s, l = [⟨s, .clock, o⟩] := by
  constructor
  · intro h
    cases h with
    | ask s r h =>
      obtain ⟨rfl, rfl⟩ := raise_iff.mp h
      exact ⟨s, rfl⟩
  · rintro ⟨s, rfl⟩
    exact .ask (q := .clock) (k := raise) s o (raise_iff.mpr ⟨rfl, rfl⟩)

/-- What is said after an event is recorded is all that a plan says. -/
theorem record_pure_cases {e : Event} {a : α} (h : Course (Plan.record e >>= fun _ => pure a) l o) :
    ∃ s r, l = [⟨s, .record e, r⟩] ∧ o = r.map fun _ => a := by
  rcases h.bind_cases with ⟨f, hf, rfl⟩ | ⟨⟨⟩, l₁, l₂, rfl, h₁, h₂⟩
  · obtain ⟨s, rfl⟩ := record_iff.mp hf
    exact ⟨s, .error f, rfl, rfl⟩
  · obtain ⟨s, rfl⟩ := record_iff.mp h₁
    obtain ⟨rfl, rfl⟩ := pure_iff.mp h₂
    exact ⟨s, .ok (), rfl, rfl⟩

theorem raise_bind_cases {r : Except Fault β} {k : β → Plan α}
    (h : Course (Plan.raise r >>= k) l o) :
    (∃ f, r = .error f ∧ l = [] ∧ o = .error f) ∨ ∃ b, r = .ok b ∧ Course (k b) l o := by
  cases r with
  | ok b => exact .inr ⟨b, rfl, h⟩
  | error f => exact .inl ⟨f, rfl, fail_iff.mp h⟩

end Course

/-! ## What a run ensures -/

/-- Run from `s`, with the exchanges `l` behind it, the plan ends in `Q`. -/
def Ensures (w : World σ) (p : Plan α) (l : List (Exchange σ)) (s : σ)
    (Q : Except Fault α → List (Exchange σ) → σ → Prop) : Prop :=
  Q (p.run w s).outcome (l ++ (p.run w s).exchanges) (p.run w s).state

variable {w : World σ} {l : List (Exchange σ)} {s : σ}
  {Q Q' : Except Fault α → List (Exchange σ) → σ → Prop}

theorem Ensures.mono {p : Plan α} (h : Ensures w p l s Q) (hQ : ∀ o l s, Q o l s → Q' o l s) :
    Ensures w p l s Q' :=
  hQ _ _ _ h

@[simp] theorem ensures_pure (a : α) : Ensures w (pure a : Plan α) l s Q ↔ Q (.ok a) l s := by
  change Q _ (l ++ []) _ ↔ _
  rw [List.append_nil]
  rfl

@[simp] theorem ensures_fail (f : Fault) :
    Ensures w (Plan.fail f : Plan α) l s Q ↔ Q (.error f) l s := by
  simp [Ensures]

@[simp] theorem ensures_bind (p : Plan β) (k : β → Plan α) :
    Ensures w (p >>= k) l s Q ↔
      Ensures w p l s fun o l s =>
        match o with
        | .ok b => Ensures w (k b) l s Q
        | .error f => Q (.error f) l s := by
  rw [Ensures, run_bind, Ensures]
  obtain ⟨o, s', l'⟩ := p.run w s
  cases o with
  | ok b => simp only [Ensures, List.append_assoc]
  | error f => rfl

@[simp] theorem ensures_ite (c : Prop) [Decidable c] (p p' : Plan α) :
    Ensures w (if c then p else p') l s Q ↔
      (c → Ensures w p l s Q) ∧ (¬c → Ensures w p' l s Q) := by
  split <;> simp_all

@[simp] theorem ensures_raise (r : Except Fault α) : Ensures w (raise r) l s Q ↔ Q r l s := by
  cases r with
  | ok a => exact ensures_pure a
  | error f => exact ensures_fail f

theorem ensures_call_bind (c : Call) (k : Except Fault c.Value → Plan α) :
    Ensures w (call c >>= k) l s Q ↔ Ensures w (k (w.reply (.call c) s).1)
      (l ++ [⟨s, .call c, (w.reply (.call c) s).1⟩]) (w.reply (.call c) s).2 Q := by
  rw [ensures_bind]
  exact Iff.rfl

theorem ensures_record (e : Event) {Q : Except Fault Unit → List (Exchange σ) → σ → Prop} :
    Ensures w (record e) l s Q ↔ Q (w.reply (.record e) s).1
      (l ++ [⟨s, .record e, (w.reply (.record e) s).1⟩]) (w.reply (.record e) s).2 := by
  simp only [Ensures, record, run]
  cases (w.reply (.record e) s).1 <;> exact Iff.rfl

end Plan

/-! ## Properties of exchanges -/

/-- Every exchange of `l`, made after those in `h` and those before it, has the property `P`. -/
def Throughout (P : List (Exchange σ) → Exchange σ → Prop) :
    List (Exchange σ) → List (Exchange σ) → Prop
  | _, [] => True
  | h, e :: l => P h e ∧ Throughout P (h ++ [e]) l

namespace Throughout

variable {P P' : List (Exchange σ) → Exchange σ → Prop} {h l l' : List (Exchange σ)}
  {e : Exchange σ}

@[simp] theorem nil : Throughout P h [] := trivial

@[simp] theorem append_iff :
    Throughout P h (l ++ l') ↔ Throughout P h l ∧ Throughout P (h ++ l) l' := by
  induction l generalizing h with
  | nil => simp
  | cons e l ih => simp [Throughout, ih, and_assoc]

theorem mono (hl : Throughout P h l) (hP : ∀ h e, P h e → P' h e) : Throughout P' h l := by
  induction l generalizing h with
  | nil => trivial
  | cons e l ih => exact ⟨hP _ _ hl.1, ih hl.2⟩

theorem and (hl : Throughout P h l) (hl' : Throughout P' h l) :
    Throughout (fun h e => P h e ∧ P' h e) h l := by
  induction l generalizing h with
  | nil => trivial
  | cons e l ih => exact ⟨⟨hl.1, hl'.1⟩, ih hl.2 hl'.2⟩

instance decidable [∀ h e, Decidable (P h e)] :
    (h l : List (Exchange σ)) → Decidable (Throughout P h l)
  | _, [] => .isTrue trivial
  | h, e :: l =>
    have := decidable (h ++ [e]) l
    inferInstanceAs (Decidable (P h e ∧ Throughout P (h ++ [e]) l))

/-- The property holds of an exchange wherever it stands. -/
theorem of_append_cons (hl : Throughout P h (l ++ e :: l')) : P (h ++ l) e :=
  (append_iff.mp hl).2.1

/-- Exchanges that have the property whatever was asked before. -/
theorem of_forall (hl : ∀ e ∈ l, ∀ h, P h e) : Throughout P h l := by
  induction l generalizing h with
  | nil => trivial
  | cons e l ih =>
      exact ⟨hl e (by simp) h, ih fun e he => hl e (by simp [he])⟩

end Throughout

/-! ## Runs as chains of states -/

/-- The exchanges lead from one state to the other: each is made in the state that the one before it
left, and answered as the world answers. -/
def World.Leads (w : World σ) : σ → List (Exchange σ) → σ → Prop
  | s, [], s' => s = s'
  | s, e :: l, s' =>
    e = ⟨s, e.query, (w.reply e.query s).1⟩ ∧ w.Leads (w.reply e.query s).2 l s'

namespace World.Leads

variable {w : World σ} {s s' : σ} {l l' : List (Exchange σ)}

theorem run (w : World σ) (p : Plan α) (s : σ) :
    w.Leads s (p.run w s).exchanges (p.run w s).state := by
  induction p generalizing s with
  | done a => rfl
  | fail f => rfl
  | ask q k ih => exact ⟨rfl, ih _ _⟩

theorem cons_iff {s₀ : σ} {q : Query} {r : q.Reply} :
    w.Leads s (⟨s₀, q, r⟩ :: l) s' ↔ s₀ = s ∧ ∃ s₁, w.reply q s = (r, s₁) ∧ w.Leads s₁ l s' := by
  constructor
  · rintro ⟨he, hl⟩
    injection he with hs _ hr
    exact ⟨hs, _, Prod.ext hr.symm rfl, hl⟩
  · rintro ⟨rfl, s₁, hr, hl⟩
    rw [World.Leads, hr]
    exact ⟨rfl, hl⟩

theorem reply_eq {e : Exchange σ} (h : w.Leads s l s') (he : e ∈ l) :
    e.reply = (w.reply e.query e.before).1 := by
  induction l generalizing s with
  | nil => cases he
  | cons first l ih =>
      rcases List.mem_cons.mp he with rfl | he
      · rw [h.1]
      · exact ih h.2 he

theorem append_iff :
    w.Leads s (l ++ l') s' ↔ ∃ m, w.Leads s l m ∧ w.Leads m l' s' := by
  induction l generalizing s with
  | nil => simp [World.Leads]
  | cons e l ih => simp [World.Leads, ih, and_assoc]

end World.Leads

/-! ## What remains of a plan -/

namespace Plan

/-- Run from `s`, the plan has made the exchanges `l` when the plan `p'` is left to be run from `s'`. -/
inductive Reaches (w : World σ) : Plan α → σ → List (Exchange σ) → Plan α → σ → Prop where
  | here (p s) : Reaches w p s [] p s
  | ask {q k s l p' s'} (h : Reaches w (k (w.reply q s).1) (w.reply q s).2 l p' s') :
      Reaches w (.ask q k) s (⟨s, q, (w.reply q s).1⟩ :: l) p' s'

namespace Reaches

variable {w : World σ} {p p' p'' : Plan α} {s s' s'' : σ} {l l' : List (Exchange σ)}

/-- The run is the exchanges so far and the run of what is left. -/
theorem run_eq (h : Reaches w p s l p' s') :
    p.run w s = { p'.run w s' with exchanges := l ++ (p'.run w s').exchanges } := by
  induction h with
  | here p s => rfl
  | ask h ih => simp [run, ih]

theorem trans (h : Reaches w p s l p' s') (h' : Reaches w p' s' l' p'' s'') :
    Reaches w p s (l ++ l') p'' s'' := by
  induction h with
  | here p s => exact h'
  | ask h ih => exact .ask (ih h')

theorem bind (h : Reaches w p s l p' s') (k : α → Plan β) :
    Reaches w (p >>= k) s l (p' >>= k) s' := by
  induction h with
  | here p s => exact .here ..
  | ask h ih => exact .ask (k := fun r => _ >>= k) ih

/-- A plan that came to its end leaves nothing but its outcome. -/
theorem of_course {o : Except Fault α} (h : p.Course l o) (hl : w.Leads s l s') :
    Reaches w p s l (raise o) s' := by
  induction h generalizing s with
  | done a =>
      rw [show s = s' from hl]
      exact .here ..
  | fail f =>
      rw [show s = s' from hl]
      exact .here ..
  | @ask q k l o s₀ r h ih =>
      obtain ⟨rfl, s₁, hr, hl⟩ := World.Leads.cons_iff.mp hl
      have first : (w.reply q s₀).1 = r := congrArg Prod.fst hr
      have rest : (w.reply q s₀).2 = s₁ := congrArg Prod.snd hr
      subst first rest
      exact .ask (ih hl)

end Reaches

end Plan

/-- What holds at the end of every course that the world leads holds at the end of the run. -/
theorem Plan.Ensures.of_course {w : World σ} {p : Plan α} {l : List (Exchange σ)} {s : σ}
    {Q : Except Fault α → List (Exchange σ) → σ → Prop}
    (h : ∀ k o s', p.Course k o → w.Leads s k s' → Q o (l ++ k) s') : p.Ensures w l s Q :=
  h _ _ _ (.run w p s) (.run w p s)

end NodeRelief
