/-!
# Registers

A register keeps items in order of first arrival, at most one under each key. Putting an item under
a key that is taken replaces the old item where it stands.
-/

namespace NodeRelief

structure Register {κ α : Type} (key : α → κ) where
  items : List α
  nodup : (items.map key).Nodup

namespace Register

variable {κ α : Type} {key : α → κ}

@[ext] theorem ext {r s : Register key} (h : r.items = s.items) : r = s := by
  cases r; cases s; simp_all

instance [DecidableEq α] : DecidableEq (Register key) := fun r s =>
  if h : r.items = s.items then isTrue (ext h) else isFalse fun hrs => h (hrs ▸ rfl)

def empty : Register key := ⟨[], by simp⟩

instance : Inhabited (Register key) := ⟨empty⟩

def isEmpty (r : Register key) : Bool := r.items.isEmpty

def size (r : Register key) : Nat := r.items.length

variable [DecidableEq κ]

def find? (r : Register key) (k : κ) : Option α := r.items.find? (key · = k)

def has (r : Register key) (k : κ) : Bool := r.items.any (key · = k)

/-- Replaces the first item under the key of `a`, or appends `a`. -/
def putItem (key : α → κ) (a : α) : List α → List α
  | [] => [a]
  | b :: rest => if key b = key a then a :: rest else b :: putItem key a rest

theorem map_key_putItem (a : α) (l : List α) :
    (putItem key a l).map key = if key a ∈ l.map key then l.map key else l.map key ++ [key a] := by
  induction l with
  | nil => rfl
  | cons b rest ih =>
    by_cases h : key b = key a
    · simp [putItem, h]
    · have h' : ¬ key a = key b := fun e => h e.symm
      simp only [putItem, h, if_false, List.map_cons, ih, List.mem_cons, h', false_or]
      split <;> simp

theorem nodup_putItem (a : α) {l : List α} (h : (l.map key).Nodup) :
    ((putItem key a l).map key).Nodup := by
  rw [map_key_putItem]
  split
  · exact h
  · next hmem =>
    rw [List.nodup_append]
    exact ⟨h, by simp, by rintro x hx y hy rfl; simp at hy; exact hmem (hy ▸ hx)⟩

def put (r : Register key) (a : α) : Register key := ⟨putItem key a r.items, nodup_putItem a r.nodup⟩

def putAll (r : Register key) (l : List α) : Register key := l.foldl put r

/-- Of two items under one key the later one stays, in the place of the earlier. -/
def ofList (l : List α) : Register key := putAll empty l

def remove (r : Register key) (k : κ) : Register key where
  items := r.items.filter (key · ≠ k)
  nodup := r.nodup.sublist (List.filter_sublist.map key)

@[simp] theorem find?_empty (k : κ) : (empty : Register key).find? k = none := rfl

theorem find?_putItem (a : α) (l : List α) (k : κ) :
    (putItem key a l).find? (key · = k) = if key a = k then some a else l.find? (key · = k) := by
  induction l with
  | nil => by_cases h : key a = k <;> simp [putItem, h]
  | cons b rest ih => grind [putItem]

@[simp] theorem find?_put (r : Register key) (a : α) (k : κ) :
    (r.put a).find? k = if key a = k then some a else r.find? k :=
  find?_putItem a r.items k

@[simp] theorem find?_remove (r : Register key) (k j : κ) :
    (r.remove k).find? j = if j = k then none else r.find? j := by
  simp only [find?, remove]
  induction r.items with
  | nil => simp
  | cons b rest ih => grind

theorem has_eq_isSome_find? (r : Register key) (k : κ) : r.has k = (r.find? k).isSome := by
  simp only [has, find?]
  induction r.items with
  | nil => rfl
  | cons b rest ih => grind

end Register

/-- Values under texts. -/
abbrev Entries (α : Type) := Register (Prod.fst : String × α → String)

namespace Entries

variable {α : Type}

def get? (l : Entries α) (k : String) : Option α := (l.find? k).map Prod.snd

def set (l : Entries α) (k : String) (v : α) : Entries α := l.put (k, v)

end Entries

end NodeRelief
