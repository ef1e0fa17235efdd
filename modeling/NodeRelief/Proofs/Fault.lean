import NodeRelief.Fault
import Mathlib.Data.List.Forall2

/-! # Answers that may be faults -/

namespace NodeRelief.Fault

variable {α β : Type}

@[simp] theorem map_eq_ok_iff {r : Except Fault α} {f : α → β} {b : β} :
    r.map f = .ok b ↔ ∃ a, r = .ok a ∧ f a = b := by
  cases r <;> simp [Except.map]

@[simp] theorem map_eq_error_iff {r : Except Fault α} {f : α → β} {e : Fault} :
    r.map f = .error e ↔ r = .error e := by
  cases r <;> simp [Except.map]

@[simp] theorem bind_eq_ok_iff {r : Except Fault α} {f : α → Except Fault β} {b : β} :
    r >>= f = .ok b ↔ ∃ a, r = .ok a ∧ f a = .ok b := by
  cases r <;> simp [bind, Except.bind]

@[simp] theorem bind_eq_error_iff {r : Except Fault α} {f : α → Except Fault β} {e : Fault} :
    r >>= f = .error e ↔ r = .error e ∨ ∃ a, r = .ok a ∧ f a = .error e := by
  cases r <;> simp [bind, Except.bind]

@[simp] theorem ok_bind {a : α} {f : α → Except Fault β} : (Except.ok a >>= f) = f a := rfl

@[simp] theorem ok_map {a : α} {f : α → β} : (Except.ok a : Except Fault α).map f = .ok (f a) := rfl

@[simp] theorem pure_eq_ok_iff {a b : α} : (pure a : Except Fault α) = .ok b ↔ a = b := by
  simp [pure, Except.pure]

@[simp] theorem pure_ne_error {a : α} {e : Fault} : (pure a : Except Fault α) ≠ .error e := by
  simp [pure, Except.pure]

@[simp] theorem ifKey_eq_ok_iff {k : Bool} {a b : α} : ifKey k a = .ok b ↔ k = true ∧ a = b := by
  cases k <;> simp [ifKey]

@[simp] theorem ifKey_eq_error_iff {k : Bool} {a : α} {e : Fault} :
    ifKey k a = .error e ↔ k = false ∧ e = .wrongKind := by
  cases k <;> simp [ifKey, eq_comm]

@[simp] theorem orOutOfRange_eq_ok_iff {r : Option α} {a : α} :
    orOutOfRange r = .ok a ↔ r = some a := by
  cases r <;> simp [orOutOfRange]

@[simp] theorem orOutOfRange_eq_error_iff {r : Option α} {e : Fault} :
    orOutOfRange r = .error e ↔ r = none ∧ e = beyondCalendar := by
  cases r <;> simp [orOutOfRange, eq_comm]

instance [DecidableEq α] (r : Except Fault α) (a : α) : Decidable (r = .ok a) :=
  match r with
  | .ok b => decidable_of_iff (b = a) (by simp)
  | .error f => isFalse (by simp)

/-- A list is read if each of its items is. -/
theorem mapM_eq_ok_iff {f : α → Except Fault β} {l : List α} {bs : List β} :
    l.mapM f = .ok bs ↔ List.Forall₂ (fun a b => f a = .ok b) l bs := by
  induction l generalizing bs with
  | nil =>
      rw [List.mapM_nil, pure_eq_ok_iff, List.forall₂_nil_left_iff]
      exact eq_comm
  | cons a l ih =>
      rw [List.mapM_cons, List.forall₂_cons_left_iff]
      simp only [bind_eq_ok_iff, pure_eq_ok_iff, ih]
      constructor
      · rintro ⟨b, hb, bs, hbs, rfl⟩
        exact ⟨b, bs, hb, hbs, rfl⟩
      · rintro ⟨b, bs, hb, hbs, rfl⟩
        exact ⟨b, hb, bs, hbs, rfl⟩

/-! A list is gone through to its end if none of its items meets a fault. -/

theorem mapM_isOk {f : α → Except Fault β} {P : β → Prop} {l : List α}
    (h : ∀ a ∈ l, ∃ b, f a = .ok b ∧ P b) : ∃ bs, l.mapM f = .ok bs ∧ ∀ b ∈ bs, P b := by
  induction l with
  | nil => exact ⟨[], rfl, by simp⟩
  | cons a l ih =>
      obtain ⟨b, hb, hP⟩ := h a (by simp)
      obtain ⟨bs, hbs, hPs⟩ := ih fun a ha => h a (by simp [ha])
      refine ⟨b :: bs, by simp [hb, hbs], ?_⟩
      exact List.forall_mem_cons.mpr ⟨hP, hPs⟩

theorem mapM_isOk_iff {f : α → Except Fault β} {l : List α} :
    (∃ bs, l.mapM f = .ok bs) ↔ ∀ a ∈ l, ∃ b, f a = .ok b := by
  constructor
  · rintro ⟨bs, h⟩
    induction mapM_eq_ok_iff.mp h with
    | nil => simp
    | cons hb rest ih => exact List.forall_mem_cons.mpr ⟨⟨_, hb⟩, ih (mapM_eq_ok_iff.mpr rest)⟩
  · intro h
    obtain ⟨bs, hbs, -⟩ := mapM_isOk (P := fun _ => True)
      fun a ha => let ⟨b, hb⟩ := h a ha; ⟨b, hb, trivial⟩
    exact ⟨bs, hbs⟩

theorem mapM_congr {f g : α → Except Fault β} {l : List α} (h : ∀ a ∈ l, f a = g a) :
    l.mapM f = l.mapM g := by
  induction l with
  | nil => rfl
  | cons a l ih => rw [List.mapM_cons, List.mapM_cons, h a (by simp), ih fun a ha => h a (by simp [ha])]

/-- What is done to every answer is done to the list of them. -/
theorem mapM_map_result {γ : Type} {f : α → Except Fault β} {g : β → γ} {l : List α} :
    (l.mapM fun a => (f a).map g) = (l.mapM f).map (List.map g) := by
  induction l with
  | nil => rfl
  | cons a l ih =>
      rw [List.mapM_cons, List.mapM_cons, ih]
      cases f a with
      | error e => rfl
      | ok b => cases l.mapM f <;> rfl

/-- Things that are given keys stay in their places. -/
theorem map_snd_of_mapM {key : α → Except Fault β} {l : List α} {keyed : List (β × α)}
    (h : (l.mapM fun a => (key a).map (·, a)) = .ok keyed) : keyed.map Prod.snd = l := by
  have pairs := mapM_eq_ok_iff.mp h
  clear h
  induction pairs with
  | nil => rfl
  | cons ha _ ih =>
      obtain ⟨k, -, rfl⟩ := map_eq_ok_iff.mp ha
      rw [List.map_cons, ih]

theorem anyM_isOk {f : α → Except Fault Bool} {l : List α} (h : ∀ a ∈ l, ∃ b, f a = .ok b) :
    ∃ b, l.anyM f = .ok b := by
  induction l with
  | nil => exact ⟨false, rfl⟩
  | cons a l ih =>
      obtain ⟨b, hb⟩ := h a (by simp)
      rw [List.anyM, hb]
      cases b with
      | true => exact ⟨true, rfl⟩
      | false => exact ih fun a ha => h a (by simp [ha])

/-- A search that meets no fault is one for what has the property. -/
theorem anyM_eq_any {f : α → Except Fault Bool} {g : α → Bool} {l : List α}
    (h : ∀ a ∈ l, f a = .ok (g a)) : l.anyM f = .ok (l.any g) := by
  induction l with
  | nil => rfl
  | cons a l ih =>
      rw [List.forall_mem_cons] at h
      rw [List.anyM_cons, h.1, ok_bind, ih h.2, List.any_cons]
      cases g a <;> rfl

theorem of_anyM_eq_false {f : α → Except Fault Bool} {l : List α} (h : l.anyM f = .ok false) :
    ∀ a ∈ l, f a = .ok false := by
  induction l with
  | nil => simp
  | cons a l ih =>
      rw [List.anyM] at h
      obtain ⟨b, hb, rest⟩ := bind_eq_ok_iff.mp h
      cases b with
      | true => cases rest
      | false => exact List.forall_mem_cons.mpr ⟨hb, ih rest⟩

theorem anyM_congr {f g : α → Except Fault Bool} {l : List α} (h : ∀ a ∈ l, f a = g a) :
    l.anyM f = l.anyM g := by
  induction l with
  | nil => rfl
  | cons a l ih => rw [List.anyM_cons, List.anyM_cons, h a (by simp), ih fun a ha => h a (by simp [ha])]

theorem anyM_of_forall₂ {f : α → Except Fault Bool} {g : β → Except Fault Bool} {l : List α} {m : List β}
    (h : List.Forall₂ (fun a b => f a = g b) l m) : l.anyM f = m.anyM g := by
  induction h with
  | nil => rfl
  | cons same _ ih => rw [List.anyM_cons, List.anyM_cons, same, ih]

theorem anyM_map {f : β → Except Fault Bool} {g : α → β} {l : List α} :
    (l.map g).anyM f = l.anyM (f ∘ g) := by
  induction l with
  | nil => rfl
  | cons a l ih => rw [List.map_cons, List.anyM_cons, List.anyM_cons, ih, Function.comp_apply]

/-- Lists one after the other are searched as one. -/
theorem anyM_flatMap {f : β → Except Fault Bool} {g : α → List β} {l : List α} :
    (l.flatMap g).anyM f = l.anyM fun a => (g a).anyM f := by
  have append (xs ys : List β) : (xs ++ ys).anyM f =
      xs.anyM f >>= fun found => if found = true then pure true else ys.anyM f := by
    induction xs with
    | nil => rfl
    | cons x xs ih =>
        rw [List.cons_append, List.anyM_cons, List.anyM_cons, ih]
        cases f x with
        | error e => rfl
        | ok found => cases found <;> rfl
  induction l with
  | nil => rfl
  | cons a l ih => rw [List.flatMap_cons, append, List.anyM_cons, ih]

theorem allM_isOk {f : α → Except Fault Bool} {l : List α} (h : ∀ a ∈ l, ∃ b, f a = .ok b) :
    ∃ b, l.allM f = .ok b := by
  induction l with
  | nil => exact ⟨true, rfl⟩
  | cons a l ih =>
      obtain ⟨b, hb⟩ := h a (by simp)
      rw [List.allM, hb]
      cases b with
      | true => exact ih fun a ha => h a (by simp [ha])
      | false => exact ⟨false, rfl⟩

/-- A list whose items all answer is gone through until one of them has not the property. -/
theorem allM_spec {f : α → Except Fault Bool} {P : α → Prop} {l : List α}
    (h : ∀ a ∈ l, ∃ b, f a = .ok b ∧ (b = true ↔ P a)) :
    ∃ b, l.allM f = .ok b ∧ (b = true ↔ ∀ a ∈ l, P a) := by
  induction l with
  | nil => exact ⟨true, rfl, by simp⟩
  | cons a l ih =>
      obtain ⟨b, hb, holds⟩ := h a (by simp)
      obtain ⟨rest, hrest, all⟩ := ih fun a ha => h a (by simp [ha])
      rw [List.allM, hb]
      cases b with
      | true => exact ⟨rest, hrest, by simpa [← holds] using all⟩
      | false => exact ⟨false, rfl, by simp [← holds]⟩

/-- The fault of a list that was not gone through to its end is that of one of its items. -/
theorem of_allM_eq_error {f : α → Except Fault Bool} {l : List α} {e : Fault}
    (h : l.allM f = .error e) : ∃ a ∈ l, f a = .error e := by
  induction l with
  | nil => cases h
  | cons a l ih =>
      rw [List.allM, bind_eq_error_iff] at h
      rcases h with failed | ⟨b, hb, rest⟩
      · exact ⟨a, by simp, failed⟩
      · cases b with
        | true =>
            obtain ⟨x, hx, failed⟩ := ih rest
            exact ⟨x, by simp [hx], failed⟩
        | false => cases rest

end NodeRelief.Fault
