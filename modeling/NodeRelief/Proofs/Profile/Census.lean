import NodeRelief.Proofs.Profile.Replay

/-! # Counting what a list tells

A list of all profiles answers how many of its documents could be read. The store that takes its place
has one profile for each name among them. So the answer is the size of the store just when no name is
told twice, and is larger otherwise. -/

namespace NodeRelief.Feed

/-- The names of the profiles that documents tell, each as often as it is told. -/
def namesTold (ds : List Document) : List Document := (ds.filterMap profile?).map Profile.name

theorem key_of_profile? {d : Document} {p : Profile} (h : profile? d = some p) : p.key = p.name := by
  obtain ⟨name, -, named⟩ := named_of_profile? h
  rw [named]
  exact (key_eq_text_iff name).mpr named

theorem map_key_profiles (ds : List Document) :
    (ds.filterMap profile?).map Profile.key = namesTold ds := by
  refine List.map_congr_left fun p hp => ?_
  obtain ⟨d, -, read⟩ := List.mem_filterMap.mp hp
  exact key_of_profile? read

variable (f : Feed) (ds : List Document)

theorem resync_answer : (f.resync ds).2 = (namesTold ds).length :=
  (List.length_map ..).symm

theorem size_resync : (f.resync ds).1.store.size = (namesTold ds).dedup.length := by
  rw [← map_key_profiles]
  exact Register.size_ofList _

/-- Whatever the store was, a list answers how many profiles its documents tell, and leaves one for each
name among them: never more than it answers, and just as many if and only if the names are all
different. -/
theorem resync_counts_documents :
    (f.resync ds).2 = ds.countP (fun d => (profile? d).isSome) ∧
    (f.resync ds).1.store.size = (namesTold ds).dedup.length ∧
    (f.resync ds).1.store.size ≤ (f.resync ds).2 ∧
    ((f.resync ds).2 = (f.resync ds).1.store.size ↔ (namesTold ds).Nodup) := by
  refine ⟨List.length_filterMap_eq_countP, size_resync f ds, ?_, ?_⟩
  · rw [size_resync, resync_answer]
    exact (List.dedup_sublist _).length_le
  · rw [size_resync, resync_answer, ← List.dedup_eq_self]
    constructor
    · intro same
      exact (List.dedup_sublist _).eq_of_length same.symm
    · intro same
      rw [same]

/-- A name that is told twice is counted twice and stored once. -/
theorem repeated_name_counted_twice :
    (resync ⟨.empty, []⟩ [Sample.document "web" 1, Sample.document "web" 2]).2 = 2 ∧
      (resync ⟨.empty, []⟩ [Sample.document "web" 1, Sample.document "web" 2]).1.store.size = 1 :=
  ⟨rfl, rfl⟩

end NodeRelief.Feed
