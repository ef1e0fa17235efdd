import NodeRelief.Document.Mapping
import Mathlib.Data.List.Dedup
import Mathlib.Data.List.Nodup

/-! # What registers and mappings hold

An item of a register is told by its key, and what a mapping holds under a key was set under that key. -/

namespace NodeRelief

namespace Register

variable {κ α : Type} {key : α → κ} [DecidableEq κ]

theorem find?_key_eq_some_iff {l : List α} (h : (l.map key).Nodup) {k : κ} {a : α} :
    l.find? (key · = k) = some a ↔ a ∈ l ∧ key a = k := by
  constructor
  · intro hfind
    exact ⟨List.mem_of_find?_eq_some hfind, by simpa using List.find?_some hfind⟩
  · rintro ⟨ha, rfl⟩
    obtain ⟨b, hb⟩ : ∃ b, l.find? (key · = key a) = some b :=
      Option.isSome_iff_exists.mp (List.find?_isSome.mpr ⟨a, ha, by simp⟩)
    have hkey : key b = key a := by simpa using List.find?_some hb
    rw [hb, List.inj_on_of_nodup_map h (List.mem_of_find?_eq_some hb) ha hkey]

theorem mem_of_find? {r : Register key} {k : κ} {a : α} (h : r.find? k = some a) :
    a ∈ r.items ∧ key a = k :=
  (find?_key_eq_some_iff r.nodup).mp h

theorem mem_remove {r : Register key} {k : κ} {a : α} :
    a ∈ (r.remove k).items ↔ a ∈ r.items ∧ key a ≠ k := by
  simp [remove]

theorem mem_of_mem_putItem {l : List α} {a b : α} (h : b ∈ putItem key a l) : b = a ∨ b ∈ l := by
  induction l with
  | nil => exact .inl (List.mem_singleton.mp h)
  | cons x rest ih =>
      rw [putItem] at h
      split at h
      · rcases List.mem_cons.mp h with rfl | h
        · exact .inl rfl
        · exact .inr (List.mem_cons_of_mem _ h)
      · rcases List.mem_cons.mp h with rfl | h
        · exact .inr (List.mem_cons_self ..)
        · exact (ih h).imp_right (List.mem_cons_of_mem _)

theorem mem_of_mem_put {r : Register key} {a b : α} (h : b ∈ (r.put a).items) :
    b = a ∨ b ∈ r.items :=
  mem_of_mem_putItem h

theorem filter_putItem (b : α) (l : List α) :
    (putItem key b l).filter (key · ≠ key b) = l.filter (key · ≠ key b) := by
  induction l with
  | nil => simp [putItem]
  | cons x rest ih =>
      by_cases h : key x = key b
      · simp [putItem, h]
      · rw [putItem, if_neg h, List.filter_cons_of_pos (by simpa using h),
          List.filter_cons_of_pos (by simpa using h), ih]

theorem perm_cons_remove {r : Register key} {a : α} (h : a ∈ r.items) :
    r.items.Perm (a :: (r.remove (key a)).items) := by
  have nodup := r.nodup
  simp only [remove]
  generalize r.items = l at h nodup ⊢
  induction l with
  | nil => cases h
  | cons x rest ih =>
      rw [List.map_cons, List.nodup_cons] at nodup
      rcases List.mem_cons.mp h with rfl | h
      · have others : ∀ b ∈ rest, decide (key b ≠ key a) = true := by
          intro b hb
          rw [decide_eq_true_eq]
          rintro same
          exact nodup.1 (same ▸ List.mem_map_of_mem hb)
        rw [List.filter_cons_of_neg (by simp), List.filter_eq_self.mpr others]
      · have other : key x ≠ key a := by
          intro same
          exact nodup.1 (same ▸ List.mem_map_of_mem h)
        rw [List.filter_cons_of_pos (by simpa using other)]
        exact ((ih h nodup.2).cons x).trans (.swap ..)

theorem mem_putItem (a : α) (l : List α) : a ∈ putItem key a l := by
  induction l with
  | nil => exact List.mem_singleton_self a
  | cons x rest ih =>
      rw [putItem]
      split
      · exact List.mem_cons_self
      · exact List.mem_cons_of_mem x ih

/-- What is put into a register stands beside all that is under other keys. -/
theorem perm_put (r : Register key) (a : α) :
    (r.put a).items.Perm (a :: (r.remove (key a)).items) := by
  have others : (r.put a).remove (key a) = r.remove (key a) := ext (filter_putItem a r.items)
  rw [← others]
  exact perm_cons_remove (mem_putItem a r.items)

theorem remove_of_find?_eq_none {r : Register key} {k : κ} (h : r.find? k = none) :
    r.remove k = r := by
  refine ext (List.filter_eq_self.mpr fun a ha => ?_)
  simpa using List.find?_eq_none.mp h a ha

theorem find?_putAll (r : Register key) (l : List α) (k : κ) :
    (r.putAll l).find? k = (l.reverse.find? (key · = k)).or (r.find? k) := by
  induction l generalizing r with
  | nil => simp [putAll]
  | cons a rest ih =>
      have hput : (r.putAll (a :: rest)).find? k = ((r.put a).putAll rest).find? k := rfl
      rw [hput, ih, find?_put, List.reverse_cons, List.find?_append, Option.or_assoc]
      by_cases h : key a = k <;> simp [h]

theorem putItem_of_notMem {a : α} {l : List α} (h : key a ∉ l.map key) :
    putItem key a l = l ++ [a] := by
  induction l with
  | nil => rfl
  | cons x rest ih =>
      rw [List.map_cons, List.mem_cons, not_or] at h
      rw [putItem, if_neg (Ne.symm h.1), ih h.2, List.cons_append]

theorem items_putAll {r : Register key} {l : List α} (h : ((r.items ++ l).map key).Nodup) :
    (r.putAll l).items = r.items ++ l := by
  induction l generalizing r with
  | nil => simp [putAll]
  | cons a rest ih =>
      have absent : key a ∉ r.items.map key := by
        rw [List.map_append, List.map_cons] at h
        intro there
        exact (List.nodup_append.mp h).2.2 _ there _ List.mem_cons_self rfl
      have appended : (r.put a).items = r.items ++ [a] := putItem_of_notMem absent
      have hput : r.putAll (a :: rest) = (r.put a).putAll rest := rfl
      rw [hput, ih, appended, List.append_assoc, List.singleton_append]
      rwa [appended, List.append_assoc, List.singleton_append]

theorem items_ofList {l : List α} (h : (l.map key).Nodup) : (ofList l : Register key).items = l :=
  items_putAll h

/-- Of the items under one key the last is found. -/
theorem find?_ofList (l : List α) (k : κ) :
    (ofList l : Register key).find? k = l.reverse.find? (key · = k) := by
  rw [ofList, find?_putAll]
  simp

theorem mem_of_mem_ofList {l : List α} {a : α} (h : a ∈ (ofList l : Register key).items) : a ∈ l := by
  have found : (ofList l : Register key).find? (key a) = some a :=
    (find?_key_eq_some_iff (ofList l).nodup).mpr ⟨h, rfl⟩
  rw [find?_ofList] at found
  exact List.mem_reverse.mp (List.mem_of_find?_eq_some found)

theorem find?_ofList_eq_some_iff {l : List α} (h : (l.map key).Nodup) {k : κ} {a : α} :
    (ofList l : Register key).find? k = some a ↔ a ∈ l ∧ key a = k := by
  have hreverse : (l.reverse.map key).Nodup := by
    rw [List.map_reverse]
    exact List.nodup_reverse.mpr h
  rw [find?_ofList, find?_key_eq_some_iff hreverse, List.mem_reverse]

theorem mem_map_key_putItem {a : α} {l : List α} {k : κ} :
    k ∈ (putItem key a l).map key ↔ k = key a ∨ k ∈ l.map key := by
  rw [map_key_putItem]
  split
  · next there => exact ⟨.inr, fun h => h.elim (· ▸ there) id⟩
  · rw [List.mem_append, List.mem_singleton, or_comm]

theorem mem_map_key_putAll {r : Register key} {l : List α} {k : κ} :
    k ∈ (r.putAll l).items.map key ↔ k ∈ r.items.map key ∨ k ∈ l.map key := by
  induction l generalizing r with
  | nil => simp [putAll]
  | cons a rest ih =>
      have hput : r.putAll (a :: rest) = (r.put a).putAll rest := rfl
      rw [hput, ih, put, mem_map_key_putItem, List.map_cons, List.mem_cons]
      tauto

/-- A register made of a list has one item for each different key in it. -/
theorem size_ofList (l : List α) : (ofList l : Register key).size = (l.map key).dedup.length := by
  have keys : ((ofList l : Register key).items.map key).Perm (l.map key).dedup := by
    refine (List.perm_ext_iff_of_nodup (ofList l).nodup (List.nodup_dedup _)).mpr fun k => ?_
    rw [ofList, mem_map_key_putAll, List.mem_dedup]
    simp [empty]
  rw [size, ← keys.length_eq, List.length_map]

end Register

namespace Mapping

/-- What a mapping holds after pairs were set in it, it held before or got by one of the pairs. -/
theorem get?_foldl_set {pairs : List (Document × Document)} {m : Mapping} {k v : Document}
    (h : (pairs.foldl (fun m (k, v) => m.set k v) m).get? k = some v) :
    m.get? k = some v ∨ ∃ pair ∈ pairs, pair.1.agrees k = true ∧ pair.2 = v := by
  induction pairs generalizing m with
  | nil => exact .inl h
  | cons pair pairs ih =>
      rcases ih h with held | ⟨pair', hpair, agrees, rfl⟩
      · rw [Mapping.get?_set] at held
        split at held
        · next agrees => exact .inr ⟨pair, by simp, agrees, Option.some.inj held⟩
        · exact .inl held
      · exact .inr ⟨pair', by simp [hpair], agrees, rfl⟩

theorem get?_eq_some_iff {m : Mapping} {k v : Document} :
    m.get? k = some v ↔ ∃ e ∈ m.items, e.1.canonical = k.canonical ∧ e.2 = v := by
  simp only [get?, Option.map_eq_some_iff, Register.find?, Register.find?_key_eq_some_iff m.nodup,
    and_assoc]

theorem get?_of_mem {m : Mapping} {e : Document × Document} (h : e ∈ m.items) :
    m.get? e.1 = some e.2 :=
  get?_eq_some_iff.mpr ⟨e, h, rfl, rfl⟩

/-- Setting pairs brings no other keys into a mapping. -/
theorem isKey_of_mem_foldl_set {pairs : List (Document × Document)} {m : Mapping}
    (hm : ∀ e ∈ m.items, e.1.isKey = true) (hpairs : ∀ pair ∈ pairs, pair.1.isKey = true) :
    ∀ e ∈ (pairs.foldl (fun m (k, v) => m.set k v) m : Mapping).items, e.1.isKey = true := by
  induction pairs generalizing m with
  | nil => exact hm
  | cons pair pairs ih =>
      refine ih ?_ fun p hp => hpairs p (by simp [hp])
      intro e he
      rcases Register.mem_of_mem_put he with rfl | he
      · simp only [spelling]
        cases hf : m.find? pair.1.canonical with
        | none => exact hpairs pair (by simp)
        | some e' => exact hm e' (Register.mem_of_find? hf).1
      · exact hm e he

end Mapping

end NodeRelief
