import NodeRelief.Proofs.Fault
import NodeRelief.Proofs.Register
import NodeRelief.Ranking
import Mathlib.Algebra.Order.Field.Rat
import Mathlib.Algebra.Order.Ring.Cast
import Mathlib.Data.List.Sort
import Mathlib.Data.Prod.Lex

/-! # What a ranking keeps

The ranking is stable: among the pods that remain when others are taken away, each has the place that it
had among all. That holds as long as the priorities are numbers that compare. -/

namespace NodeRelief

/-! ## Sorting what remains -/

section Stability

variable {α β : Type} [LinearOrder β] (key : α → β)

/-- A list is parted in only one way into what has a property and what has not. -/
theorem append_inj_of_parted {P : α → Bool} {xs xs' ys ys' : List α} (h : xs ++ ys = xs' ++ ys')
    (hx : ∀ a ∈ xs, P a = true) (hx' : ∀ a ∈ xs', P a = true) (hy : ∀ a ∈ ys, P a = false)
    (hy' : ∀ a ∈ ys', P a = false) : xs = xs' ∧ ys = ys' := by
  have head {xs ys : List α} (hx : ∀ a ∈ xs, P a = true) (hy : ∀ a ∈ ys, P a = false) :
      (xs ++ ys).takeWhile P = xs := by
    rw [List.takeWhile_append_of_pos hx]
    cases ys with
    | nil => simp
    | cons y ys => simp [hy y (by simp)]
  have same : xs = xs' := by rw [← head hx hy, h, head hx' hy']
  subst same
  exact ⟨rfl, List.append_cancel_left h⟩

/-- Sorting by a key is stable, so what remains is sorted as it was among all. -/
theorem filter_mergeSort (f : α → Bool) (l : List α) :
    (l.mergeSort fun a b => decide (key a ≤ key b)).filter f =
      (l.filter f).mergeSort fun a b => decide (key a ≤ key b) := by
  have trans (a b c : α) (hab : decide (key a ≤ key b) = true) (hbc : decide (key b ≤ key c) = true) :
      decide (key a ≤ key c) = true := by
    rw [decide_eq_true_eq] at *
    exact le_trans hab hbc
  have total (a b : α) : (decide (key a ≤ key b) || decide (key b ≤ key a)) = true := by
    simpa using le_total (key a) (key b)
  induction l with
  | nil => simp
  | cons a l ih =>
      obtain ⟨xs, ys, hcons, hl, before⟩ := List.mergeSort_cons trans total a l
      rw [hl, List.filter_append] at ih
      by_cases ha : f a = true
      · obtain ⟨xs', ys', hcons', hl', before'⟩ := List.mergeSort_cons trans total a (l.filter f)
        rw [hl'] at ih
        have sorted := List.pairwise_mergeSort trans total (a :: l)
        rw [hcons, List.pairwise_append] at sorted
        have sorted' := List.pairwise_mergeSort trans total (a :: l.filter f)
        rw [hcons', List.pairwise_append] at sorted'
        obtain ⟨hxs, hys⟩ : xs.filter f = xs' ∧ ys.filter f = ys' := by
          refine append_inj_of_parted ih (P := fun b => !decide (key a ≤ key b)) ?_ before' ?_ ?_
          · exact fun b hb => before b (List.mem_of_mem_filter hb)
          · intro b hb
            simpa using List.rel_of_pairwise_cons sorted.2.1 (List.mem_of_mem_filter hb)
          · intro b hb
            simpa using List.rel_of_pairwise_cons sorted'.2.1 hb
        rw [hcons, List.filter_append, List.filter_cons_of_pos ha, hxs, hys,
          List.filter_cons_of_pos ha, hcons']
      · rw [hcons, List.filter_append, List.filter_cons_of_neg ha, List.filter_cons_of_neg ha, ih]

end Stability

/-! ## The order of the keys -/

/-- The place of a number between the infinities. -/
def Number.place : Number → ℤ ×ₗ ℚ
  | .fractional (.infinite negative) => toLex (if negative then -1 else 1, 0)
  | a => toLex (0, a.value)

theorem Number.lt_iff {a b : Number} (ha : a.isNaN = false) (hb : b.isNaN = false) :
    a.lt b = true ↔ a.place < b.place := by
  rw [Prod.Lex.lt_iff]
  cases a with
  | whole m =>
      cases b with
      | whole n => simp [place, value]
      | fractional y =>
          cases y with
          | nan => cases hb
          | infinite negative => cases negative <;> simp [lt, place]
          | finite negative mantissa exponent => simp [lt, place]
  | fractional x =>
      cases x with
      | nan => cases ha
      | infinite negative =>
          cases b with
          | whole n => cases negative <;> simp [lt, place]
          | fractional y =>
              cases y with
              | nan => cases hb
              | infinite negative' => cases negative <;> cases negative' <;> simp [lt, place]
              | finite negative' mantissa exponent => cases negative <;> simp [lt, place]
      | finite negative mantissa exponent =>
          cases b with
          | whole n => simp [lt, place]
          | fractional y =>
              cases y with
              | nan => cases hb
              | infinite negative' => cases negative' <;> simp [lt, place]
              | finite negative' mantissa' exponent' => simp [lt, place]

/-- The place of a key in the lexicographic order. -/
def SortKey.place (k : SortKey) : ℤ ×ₗ ℤ ×ₗ ℤ ×ₗ ℚ :=
  toLex (k.rank, toLex (k.unprofiled, k.priority.place))

theorem SortKey.le_eq {a b : SortKey} (ha : a.priority.isNaN = false)
    (hb : b.priority.isNaN = false) : a.le b = decide (a.place ≤ b.place) := by
  have below : b.lt a = true ↔ b.place < a.place := by
    simp [lt, place, Prod.Lex.toLex_lt_toLex, Number.lt_iff hb ha]
  rw [le, Bool.eq_iff_iff, Bool.not_eq_true', decide_eq_true_eq, ← not_lt, ← below, Bool.not_eq_true]

/-! ## The profile of a pod -/

namespace Pod

variable {profiles : ProfileStore} {label : Document} {p : Pod} {x : Profile}

/-- What a pod's label holds is the name of a profile in the store. A label that holds `null` names
none. -/
def Profiled (profiles : ProfileStore) (label : Document) (p : Pod) (x : Profile) : Prop :=
  ∃ l ∈ p.labels.items, l.1.canonical = label.canonical ∧ l.2 ≠ .null ∧
    x ∈ profiles.items ∧ x.name.canonical = l.2.canonical

theorem Profiled.stored (h : p.Profiled profiles label x) : x ∈ profiles.items := by
  obtain ⟨-, -, -, -, stored, -⟩ := h
  exact stored

theorem workload_eq_iff {value : Document} (hvalue : value ≠ .null) :
    p.workload label = value ↔
      ∃ l ∈ p.labels.items, l.1.canonical = label.canonical ∧ l.2 = value := by
  rw [← Mapping.get?_eq_some_iff, workload]
  cases p.labels.get? label <;> simp [hvalue.symm]

theorem profile?_of_workload (hvalue : p.workload label ≠ .null) :
    p.profile? profiles label = profiles.find? (p.workload label).canonical := by
  rw [profile?]
  split
  · next null => exact absurd null hvalue
  · rfl

/-- What is looked up for a pod is the profile that its label names. -/
theorem profile?_eq_some_iff : p.profile? profiles label = some x ↔ p.Profiled profiles label x := by
  constructor
  · intro found
    have hvalue : p.workload label ≠ .null := by
      intro null
      rw [profile?, null] at found
      cases found
    obtain ⟨l, labelled, hkey, hl⟩ := (workload_eq_iff hvalue).mp rfl
    rw [profile?_of_workload hvalue, ← hl] at found
    obtain ⟨stored, named⟩ := Register.mem_of_find? found
    exact ⟨l, labelled, hkey, hl ▸ hvalue, stored, named⟩
  · rintro ⟨l, labelled, hkey, hvalue, stored, named⟩
    have workload : p.workload label = l.2 := (workload_eq_iff hvalue).mpr ⟨l, labelled, hkey, rfl⟩
    rw [profile?_of_workload (workload ▸ hvalue), workload]
    exact (Register.find?_key_eq_some_iff profiles.nodup).mpr ⟨stored, named⟩

theorem profile?_eq_none_iff :
    p.profile? profiles label = none ↔ ∀ x, ¬ p.Profiled profiles label x := by
  simp only [← profile?_eq_some_iff, Option.eq_none_iff_forall_ne_some, ne_eq]

end Pod

/-! ## Rankings -/

/-- Things that have pods are ranked as their pods are. -/
theorem Ranking.rank_map {α : Type} {profiles : ProfileStore} {label : Document} (pod : α → Pod)
    (l : List α) : rank profiles label (l.map pod) =
      (l.mapM fun a => (sortKey profiles label (pod a)).map (·, a)).map fun ks =>
        (ks.mergeSort fun a b => a.1.le b.1).map fun k => pod k.2 := by
  have keys : (l.map pod).mapM (keyed profiles label) =
      (l.mapM fun a => (sortKey profiles label (pod a)).map (·, a)).map
        (List.map fun k => (k.1, pod k.2)) := by
    rw [List.mapM_map, ← Fault.mapM_map_result]
    refine congrArg (l.mapM ·) (funext fun a => ?_)
    rw [Function.comp_apply, keyed]
    cases sortKey profiles label (pod a) <;> rfl
  rw [rank, keys]
  cases l.mapM fun a => (sortKey profiles label (pod a)).map (·, a) with
  | error f => rfl
  | ok ks =>
      have sorted := List.map_mergeSort (f := fun k : SortKey × α => (k.1, pod k.2))
        (r := fun a b => a.1.le b.1) (s := fun a b => a.1.le b.1) (l := ks) fun _ _ _ _ => rfl
      simp only [Fault.ok_map, ← sorted, List.map_map]
      rfl

/-- The priorities of the profiles are numbers that compare. -/
def ProfileStore.Comparable (profiles : ProfileStore) : Prop :=
  ∀ p ∈ profiles.items, ∀ n ∈ p.priority.asNumber?, n.isNaN = false

namespace Ranking

variable {profiles : ProfileStore} {label : Document} {pods ranked : List Pod}

theorem isNaN_of_make {qos : QosClass} {profile : Option Profile} {k : SortKey}
    (comparable : ∀ p ∈ profile, ∀ n ∈ p.priority.asNumber?, n.isNaN = false)
    (h : SortKey.make qos profile = .ok k) : k.priority.isNaN = false := by
  cases profile with
  | none =>
      cases h
      rfl
  | some p =>
      obtain ⟨n, hn, rfl⟩ := Fault.map_eq_ok_iff.mp h
      have number : p.priority.asNumber? = some n := by
        simp only [Document.asNumber] at hn
        split at hn
        · next there =>
          cases hn
          exact there
        · cases hn
      have compares := comparable p rfl n number
      cases n with
      | whole i => rfl
      | fractional x => cases x <;> first | rfl | cases compares

theorem isNaN_of_keyed {p : Pod} {k : SortKey × Pod} (comparable : profiles.Comparable)
    (h : keyed profiles label p = .ok k) : k.1.priority.isNaN = false := by
  obtain ⟨key, hkey, rfl⟩ := Fault.map_eq_ok_iff.mp h
  simp only [sortKey] at hkey
  obtain ⟨_, -, hkey⟩ := Fault.bind_eq_ok_iff.mp hkey
  obtain ⟨qos, -, hkey⟩ := Fault.bind_eq_ok_iff.mp hkey
  exact isNaN_of_make
    (fun profile found => comparable profile (Pod.profile?_eq_some_iff.mp found).stored) hkey

/-- The keys of the pods that remain are the ones that they had among all. -/
theorem keyed_filter {ks : List (SortKey × Pod)} (f : Pod → Bool)
    (h : List.Forall₂ (fun p k => keyed profiles label p = .ok k) pods ks) :
    List.Forall₂ (fun p k => keyed profiles label p = .ok k) (pods.filter f)
      (ks.filter (f ∘ Prod.snd)) := by
  induction h with
  | nil => exact .nil
  | @cons p k pods ks hk _ ih =>
      obtain ⟨key, -, rfl⟩ := Fault.map_eq_ok_iff.mp hk
      by_cases hp : f p = true
      · rw [List.filter_cons_of_pos hp, List.filter_cons_of_pos (p := f ∘ Prod.snd) (by exact hp)]
        exact .cons hk ih
      · rw [List.filter_cons_of_neg hp, List.filter_cons_of_neg (p := f ∘ Prod.snd) (by exact hp)]
        exact ih

/-- Keys that compare are sorted by their places. -/
theorem mergeSort_eq {ks : List (SortKey × Pod)} (h : ∀ k ∈ ks, k.1.priority.isNaN = false) :
    (ks.mergeSort fun a b => a.1.le b.1) =
      ks.mergeSort fun a b => decide (a.1.place ≤ b.1.place) := by
  have sorted := List.map_mergeSort (r := fun a b => a.1.le b.1)
    (s := fun a b => decide (a.1.place ≤ b.1.place)) (f := id) (l := ks)
    fun a ha b hb => SortKey.le_eq (h a ha) (h b hb)
  rwa [List.map_id, List.map_id] at sorted

/-- Among the pods that remain, each is ranked as it was among all. -/
theorem rank_filter (comparable : profiles.Comparable) (f : Pod → Bool)
    (h : rank profiles label pods = .ok ranked) :
    rank profiles label (pods.filter f) = .ok (ranked.filter f) := by
  obtain ⟨ks, hks, rfl⟩ := Fault.map_eq_ok_iff.mp h
  have pairs := Fault.mapM_eq_ok_iff.mp hks
  have compares : ∀ k ∈ ks, k.1.priority.isNaN = false := by
    clear h hks
    induction pairs with
    | nil => simp
    | cons hk _ ih => exact List.forall_mem_cons.mpr ⟨isNaN_of_keyed comparable hk, ih⟩
  refine Fault.map_eq_ok_iff.mpr
    ⟨ks.filter (f ∘ Prod.snd), Fault.mapM_eq_ok_iff.mpr (keyed_filter f pairs), ?_⟩
  rw [mergeSort_eq fun k hk => compares k (List.mem_of_mem_filter hk), mergeSort_eq compares,
    List.filter_map, filter_mergeSort]

end Ranking

end NodeRelief
