import NodeRelief.Proofs.Ranking
import NodeRelief.Proofs.Ranking.Classes
import Mathlib.Data.List.FinRange

/-! # The policy of a ranking

Pods of a class that is evicted sooner come first, within a class the profiled ones, and of these the
ones of higher priority; pods that tie come as they came in. -/

namespace NodeRelief

/-! ## Stable sorting -/

section

variable {α β : Type} [LinearOrder β] (key : α → β)

theorem pairwise_mergeSort_le (l : List α) :
    (l.mergeSort fun a b => decide (key a ≤ key b)).Pairwise fun a b => key a ≤ key b := by
  have trans : ∀ a b c, decide (key a ≤ key b) = true → decide (key b ≤ key c) = true →
      decide (key a ≤ key c) = true := by
    simp only [decide_eq_true_eq]
    exact fun _ _ _ => le_trans
  have total : ∀ a b, (decide (key a ≤ key b) || decide (key b ≤ key a)) = true := by
    simp only [Bool.or_eq_true, decide_eq_true_eq]
    exact fun a b => le_total (key a) (key b)
  have sorted := List.pairwise_mergeSort trans total l
  simpa using sorted

/-- Where keys are equal, a relation between earlier and later items outlasts the sort. -/
theorem pairwise_mergeSort_stable {R : α → α → Prop} {l : List α} (h : l.Pairwise R) :
    (l.mergeSort fun a b => decide (key a ≤ key b)).Pairwise fun a b =>
      key a < key b ∨ key a = key b ∧ R a b := by
  have sorted := pairwise_mergeSort_le key l
  rw [List.pairwise_iff_forall_sublist] at sorted ⊢
  intro a b hab
  rcases (sorted hab).lt_or_eq with lt | same
  · exact .inl lt
  refine .inr ⟨same, ?_⟩
  have among : [a, b].Sublist (l.filter fun c => decide (key c = key b)) := by
    have both := hab.filter fun c => decide (key c = key b)
    rw [filter_mergeSort, List.mergeSort_of_pairwise] at both
    · simpa [same] using both
    · refine List.pairwise_of_forall_mem_list fun c hc d hd => ?_
      simp only [List.mem_filter, decide_eq_true_eq] at hc hd ⊢
      exact (hc.2.trans hd.2.symm).le
  exact List.pairwise_iff_forall_sublist.mp h (among.trans List.filter_sublist)

end

/-! ## The policy -/

/-- Whether pods of one class are evicted before pods of another. -/
inductive QosClass.Sooner : QosClass → QosClass → Prop where
  | bestEffort_burstable : Sooner .bestEffort .burstable
  | bestEffort_guaranteed : Sooner .bestEffort .guaranteed
  | burstable_guaranteed : Sooner .burstable .guaranteed

theorem QosClass.sooner_iff {a b : QosClass} : a.Sooner b ↔ b.rank < a.rank := by
  constructor
  · intro h
    cases h <;> decide
  · intro h
    cases a <;> cases b <;> first | constructor | simp [rank] at h

theorem QosClass.rank_injective {a b : QosClass} (h : a.rank = b.rank) : a = b := by
  cases a <;> cases b <;> first | rfl | cases h

/-- How a key with a whole number for its priority comes before another, or ties with it. -/
theorem SortKey.place_whole {r r' u u' m m' : Int} {tied : Prop}
    (h : SortKey.place ⟨r, u, .whole m⟩ < SortKey.place ⟨r', u', .whole m'⟩ ∨
      SortKey.place ⟨r, u, .whole m⟩ = SortKey.place ⟨r', u', .whole m'⟩ ∧ tied) :
    r < r' ∨ r = r' ∧ (u < u' ∨ u = u' ∧ (m < m' ∨ m = m' ∧ tied)) := by
  simp only [place, Number.place, Number.value, Prod.Lex.toLex_lt_toLex,
    EmbeddingLike.apply_eq_iff_eq, Prod.mk.injEq, lt_irrefl, true_and, false_or, Int.cast_lt,
    Rat.intCast_inj] at h
  tauto

namespace Ranking

section

variable (profiles : ProfileStore) (label : Document)

/-- Whether the policy lets a pod go before another, if it came in `earlier` or not: by the classes of
their amounts, then by the profiles that their labels name. -/
inductive Precedes (p q : Pod) (earlier : Prop) : Prop where
  | sooner {a b : QosClass} (first : p.Classed a) (second : q.Classed b) (sooner : a.Sooner b)
  | profiled {a : QosClass} {x : Profile} (first : p.Classed a) (second : q.Classed a)
      (profiled : p.Profiled profiles label x) (unprofiled : ∀ y, ¬ q.Profiled profiles label y)
  | higher {a : QosClass} {x y : Profile} {m n : Int} (first : p.Classed a) (second : q.Classed a)
      (hx : p.Profiled profiles label x) (hy : q.Profiled profiles label y)
      (hm : x.priority = .int m) (hn : y.priority = .int n) (higher : n < m)
  | equal {a : QosClass} {x y : Profile} {m : Int} (first : p.Classed a) (second : q.Classed a)
      (hx : p.Profiled profiles label x) (hy : q.Profiled profiles label y)
      (hm : x.priority = .int m) (hn : y.priority = .int m) (earlier : earlier)
  | unprofiled {a : QosClass} (first : p.Classed a) (second : q.Classed a)
      (hx : ∀ x, ¬ p.Profiled profiles label x) (hy : ∀ y, ¬ q.Profiled profiles label y)
      (earlier : earlier)

/-- Pods whose amounts are finite, whose labels can be looked up and whose profiles have whole numbers
for their priorities. -/
structure Rankable (pods : List Pod) : Prop where
  labelKey : label.isKey = true
  workloadKey : ∀ p ∈ pods, (p.workload label).isKey = true
  finite : ∀ p ∈ pods, ∀ x ∈ p.containers, x.Sound
  priorities : ∀ x ∈ profiles.items, ∃ n : Int, x.priority = .int n

/-- The key of a pod that has one. -/
def keyOf (p : Pod) : SortKey := (sortKey profiles label p).toOption.getD ⟨0, 0, .whole 0⟩

/-- The place of a pod in the order of eviction. -/
def place (p : Pod) : ℤ ×ₗ ℤ ×ₗ ℤ ×ₗ ℚ := (keyOf profiles label p).place

end

namespace Rankable

variable {profiles : ProfileStore} {label : Document} {pods : List Pod}

theorem of_subset (h : Rankable profiles label pods) {pods' : List Pod} (sub : pods' ⊆ pods) :
    Rankable profiles label pods' where
  labelKey := h.labelKey
  workloadKey p hp := h.workloadKey p (sub hp)
  finite p hp := h.finite p (sub hp)
  priorities := h.priorities

theorem comparable (h : Rankable profiles label pods) : profiles.Comparable := by
  intro x hx n hn
  obtain ⟨i, hi⟩ := h.priorities x hx
  rw [hi] at hn
  cases hn
  rfl

/-- A pod is ranked by its class and by the priority of its profile, if it has one. -/
theorem sortKey_cases (h : Rankable profiles label pods) {p : Pod} (hp : p ∈ pods) :
    ∃ a, p.Classed a ∧
      ((∀ x, ¬ p.Profiled profiles label x) ∧
          sortKey profiles label p = .ok ⟨-a.rank, 1, .whole 0⟩ ∨
        ∃ x n, p.Profiled profiles label x ∧ x.priority = .int n ∧
          sortKey profiles label p = .ok ⟨-a.rank, 0, .whole (-n)⟩) := by
  obtain ⟨a, ha, classed⟩ := Pod.classed_qos (h.finite p hp)
  have made : sortKey profiles label p = SortKey.make a (p.profile? profiles label) := by
    rw [sortKey, h.labelKey, h.workloadKey p hp, ha]
    rfl
  refine ⟨a, classed, ?_⟩
  rw [made]
  cases hx : p.profile? profiles label with
  | none => exact .inl ⟨Pod.profile?_eq_none_iff.mp hx, rfl⟩
  | some x =>
      have profiled := Pod.profile?_eq_some_iff.mp hx
      obtain ⟨n, hn⟩ := h.priorities x profiled.stored
      refine .inr ⟨x, n, profiled, hn, ?_⟩
      rw [SortKey.make, hn]
      rfl

theorem keyed_eq (h : Rankable profiles label pods) {p : Pod} (hp : p ∈ pods) :
    keyed profiles label p = .ok (keyOf profiles label p, p) := by
  obtain ⟨a, -, ⟨-, hk⟩ | ⟨x, n, -, -, hk⟩⟩ := h.sortKey_cases hp
  all_goals
    rw [keyed, keyOf, hk]
    rfl

/-- Pods are sorted by their places. -/
theorem rank_eq (h : Rankable profiles label pods) :
    rank profiles label pods =
      .ok (pods.mergeSort fun p q => decide (place profiles label p ≤ place profiles label q)) := by
  have keys : pods.mapM (keyed profiles label) = .ok (pods.map fun p => (keyOf profiles label p, p)) :=
    Fault.mapM_eq_ok_iff.mpr
      (List.forall₂_map_right_iff.mpr (List.forall₂_same.mpr fun p hp => h.keyed_eq hp))
  have compares : ∀ k ∈ pods.map fun p => (keyOf profiles label p, p), k.1.priority.isNaN = false := by
    intro k hk
    obtain ⟨p, hp, rfl⟩ := List.mem_map.mp hk
    exact isNaN_of_keyed h.comparable (h.keyed_eq hp)
  rw [rank, keys, Fault.ok_map, mergeSort_eq compares]
  have sorted := List.map_mergeSort (f := fun p => (keyOf profiles label p, p))
    (r := fun p q => decide (place profiles label p ≤ place profiles label q))
    (s := fun a b => decide (a.1.place ≤ b.1.place)) (l := pods) fun _ _ _ _ => rfl
  rw [← sorted, List.map_map]
  simp [Function.comp_def]

theorem place_eq {p : Pod} {k : SortKey} (hk : sortKey profiles label p = .ok k) :
    place profiles label p = k.place := by
  rw [place, keyOf, hk]
  rfl

/-- Places tell by the policy which of two pods goes first. -/
theorem precedes (h : Rankable profiles label pods) {p q : Pod} (hp : p ∈ pods)
    (hq : q ∈ pods) {earlier : Prop}
    (hplace : place profiles label p < place profiles label q ∨
      place profiles label p = place profiles label q ∧ earlier) :
    Precedes profiles label p q earlier := by
  obtain ⟨a, ha, hp⟩ := h.sortKey_cases hp
  obtain ⟨b, hb, hq⟩ := h.sortKey_cases hq
  have sooner (hrank : -(a.rank : Int) < -b.rank) : Precedes profiles label p q earlier :=
    .sooner ha hb (QosClass.sooner_iff.mpr (by omega))
  have same (hrank : -(a.rank : Int) = -b.rank) : q.Classed a := by
    rwa [QosClass.rank_injective (show a.rank = b.rank by omega)]
  rcases hp with ⟨hx, hk⟩ | ⟨x, m, hx, hm, hk⟩
  · rcases hq with ⟨hy, hk'⟩ | ⟨y, n, hy, hn, hk'⟩
    · rw [place_eq hk, place_eq hk'] at hplace
      rcases SortKey.place_whole hplace with lt | ⟨eq, rest⟩
      · exact sooner lt
      · exact .unprofiled ha (same eq) hx hy (by simpa using rest)
    · rw [place_eq hk, place_eq hk'] at hplace
      rcases SortKey.place_whole hplace with lt | ⟨eq, rest⟩
      · exact sooner lt
      · simp at rest
  · rcases hq with ⟨hy, hk'⟩ | ⟨y, n, hy, hn, hk'⟩
    · rw [place_eq hk, place_eq hk'] at hplace
      rcases SortKey.place_whole hplace with lt | ⟨eq, -⟩
      · exact sooner lt
      · exact .profiled ha (same eq) hx hy
    · rw [place_eq hk, place_eq hk'] at hplace
      rcases SortKey.place_whole hplace with lt | ⟨eq, unprofiled | ⟨-, higher | ⟨equal, earlier⟩⟩⟩
      · exact sooner lt
      · cases unprofiled
      · exact .higher ha (same eq) hx hy hm hn (by omega)
      · obtain rfl : m = n := by omega
        exact .equal ha (same eq) hx hy hm hn earlier

end Rankable

section

variable {profiles : ProfileStore} {label : Document} {pods ranked : List Pod}

/-- Each place of the ranking is filled from a place of the list, by the policy. -/
theorem Rankable.exists_places (h : Rankable profiles label pods)
    (ranked_eq : rank profiles label pods = .ok ranked) :
    ∃ places : List (Fin pods.length),
      places.Perm (List.finRange pods.length) ∧ ranked = places.map pods.get ∧
      places.Pairwise fun i j => Precedes profiles label (pods.get i) (pods.get j) (i < j) := by
  let key (i : Fin pods.length) := place profiles label (pods.get i)
  refine ⟨(List.finRange pods.length).mergeSort fun i j => decide (key i ≤ key j),
    List.mergeSort_perm .., ?_, ?_⟩
  · have sorted := List.map_mergeSort (f := pods.get) (l := List.finRange pods.length)
      (r := fun i j => decide (key i ≤ key j))
      (s := fun p q => decide (place profiles label p ≤ place profiles label q)) fun _ _ _ _ => rfl
    rw [h.rank_eq] at ranked_eq
    rw [sorted, List.map_get_finRange]
    exact (Except.ok.inj ranked_eq).symm
  · exact (pairwise_mergeSort_stable key (List.pairwise_lt_finRange _)).imp fun before =>
      h.precedes (List.get_mem ..) (List.get_mem ..) before

theorem Rankable.rank_ranked (h : Rankable profiles label pods)
    (ranked_eq : rank profiles label pods = .ok ranked) : rank profiles label ranked = .ok ranked := by
  rw [h.rank_eq] at ranked_eq
  obtain rfl := Except.ok.inj ranked_eq
  rw [(h.of_subset (List.mergeSort_perm ..).subset).rank_eq, List.mergeSort_of_pairwise]
  exact (pairwise_mergeSort_le _ pods).imp decide_eq_true

/-- Any list of pods can be ranked, and the ranking is the stable order of the policy: it takes each
pod once, one that precedes another goes first, and pods that tie keep their order. So ranking again
changes nothing, and what remains of a list is ranked as it was in the list. -/
theorem rank_follows_policy (h : Rankable profiles label pods) :
    ∃ ranked, rank profiles label pods = .ok ranked ∧
      (∃ places : List (Fin pods.length),
        places.Perm (List.finRange pods.length) ∧ ranked = places.map pods.get ∧
        places.Pairwise fun i j => Precedes profiles label (pods.get i) (pods.get j) (i < j)) ∧
      rank profiles label ranked = .ok ranked ∧
      ∀ f : Pod → Bool, rank profiles label (pods.filter f) = .ok (ranked.filter f) :=
  ⟨_, h.rank_eq, h.exists_places h.rank_eq, h.rank_ranked h.rank_eq,
    fun f => rank_filter h.comparable f h.rank_eq⟩

end

namespace Sample

def label : Document := .text "workload.k8s.io/type"

def pod (name workload cpu : String) : Pod where
  name := .text name
  ns := .text "shop"
  node := .text "node-a"
  phase := .running
  containers := [⟨.text "c", .object [("cpu", .text cpu), ("memory", .text "1Gi")],
    .object [("cpu", .text "1"), ("memory", .text "1Gi")]⟩]
  labels := .ofPairs [(label, .text workload)]
  owners := []
  uid := .null

def profiles : ProfileStore :=
  .ofList [
    ⟨.text "batch", .int (-3), .null, .null, .null⟩,
    ⟨.text "web", .int 0, .null, .null, .null⟩]

/-- One that has what it asks for, four burstable ones, the second of them with no profile, and one without
containers. -/
def pods : List Pod :=
  [pod "a" "web" "1000m", pod "b" "batch" "500m", pod "c" "cron" "500m", pod "d" "web" "500m",
    pod "e" "web" "500m", { pod "f" "batch" "0" with containers := [] }]

theorem rankable : Rankable profiles label pods where
  labelKey := rfl
  workloadKey := by decide +kernel
  finite := by
    have sound : ∀ p ∈ pods, ∀ x ∈ p.containers,
        x.requests.declaresFinite = true ∧ x.limits.declaresFinite = true := by decide +kernel
    exact fun p hp x hx => ⟨(sound p hp x hx).1, (sound p hp x hx).2⟩
  priorities := by
    intro x hx
    change x ∈ [_, _] at hx
    simp only [List.mem_cons, List.not_mem_nil, or_false] at hx
    rcases hx with rfl | rfl
    · exact ⟨-3, rfl⟩
    · exact ⟨0, rfl⟩

/-- The keys of these pods. -/
def keys : List SortKey :=
  [⟨-1, 0, .whole 0⟩, ⟨-2, 0, .whole 3⟩, ⟨-2, 1, .whole 0⟩, ⟨-2, 0, .whole 0⟩, ⟨-2, 0, .whole 0⟩,
    ⟨-3, 0, .whole 3⟩]

theorem mapM_keyed : pods.mapM (keyed profiles label) = .ok (keys.zip pods) := by decide +kernel

/-- The best effort pod is first, then come the burstable ones by their profiles, two of one priority as
they came in, and the guaranteed one is last. -/
theorem rank_pods : ∃ ranked, rank profiles label pods = .ok ranked ∧
    ranked.map (·.name) =
      [.text "f", .text "d", .text "e", .text "b", .text "c", .text "a"] := by
  rw [rank, mapM_keyed]
  refine ⟨_, rfl, ?_⟩
  simp [keys, pods, pod, List.mergeSort, List.MergeSort.Internal.splitInTwo, List.splitAt,
    List.splitAt.go, SortKey.le, SortKey.lt, Number.lt, Number.value]

end Sample

open Sample in
theorem rank_follows_policy_sample :
    Rankable profiles label pods ∧
      ∃ ranked, rank profiles label pods = .ok ranked ∧
        ranked.map (·.name) =
          [.text "f", .text "d", .text "e", .text "b", .text "c", .text "a"] ∧
        (∃ places : List (Fin pods.length),
          places.Perm (List.finRange pods.length) ∧ ranked = places.map pods.get ∧
          places.Pairwise fun i j => Precedes profiles label (pods.get i) (pods.get j) (i < j)) ∧
        rank profiles label ranked = .ok ranked ∧
        ∀ f : Pod → Bool, rank profiles label (pods.filter f) = .ok (ranked.filter f) := by
  obtain ⟨ranked, ranked_eq, names⟩ := rank_pods
  obtain ⟨_, same, policy⟩ := rank_follows_policy rankable
  obtain rfl := Except.ok.inj (ranked_eq.symm.trans same)
  exact ⟨rankable, ranked, ranked_eq, names, policy⟩

end Ranking

end NodeRelief
