import NodeRelief.Lock
import NodeRelief.Proofs.Register
import Mathlib.Data.List.Basic

/-! # Who holds the lock

The counters of the lock are those of its threads, a thread sleeps only as long as it has to wait, and
no reader gets past a writer that waits. All of this is kept by every critical section of every thread,
in whatever order they come. -/

namespace NodeRelief

variable {ι : Type}

namespace Thread

def holds (mode : LockMode) (t : Thread ι) : Bool := t.phase = .holding && t.mode = mode

/-- Whether a thread waits for the lock, asleep or still to test again. -/
def wants (mode : LockMode) (t : Thread ι) : Bool := t.phase ≠ .holding && t.mode = mode

end Thread

namespace Lock

/-! ## Waking -/

theorem id_wake : Thread.id ∘ wake = (Thread.id : Thread ι → ι) := by
  funext t
  rw [Function.comp_apply, wake]
  split <;> rfl

theorem holds_wake (mode : LockMode) :
    Thread.holds mode ∘ wake = (Thread.holds mode : Thread ι → Bool) := by
  funext t
  rw [Function.comp_apply, wake]
  split
  · next asleep => simp [Thread.holds, asleep]
  · rfl

theorem wants_wake (mode : LockMode) :
    Thread.wants mode ∘ wake = (Thread.wants mode : Thread ι → Bool) := by
  funext t
  rw [Function.comp_apply, wake]
  split
  · next asleep => simp [Thread.wants, asleep]
  · rfl

theorem not_asleep_wake (t : Thread ι) : (wake t).phase ≠ .asleep := by
  rw [wake]
  split
  · simp
  · assumption

theorem wake_of_holding {t : Thread ι} (h : (wake t).phase = .holding) : wake t = t := by
  rw [wake] at *
  split
  · next asleep =>
    rw [if_pos asleep] at h
    cases h
  · rfl

/-! ## Having to wait -/

section

variable {l l' : Lock ι} {mode : LockMode}

theorem blocks_read_iff : l.blocks .read = true ↔ l.writer = true ∨ l.writersWaiting ≠ 0 := by
  simp [blocks]

theorem blocks_write_iff : l.blocks .write = true ↔ l.writer = true ∨ l.readers ≠ 0 := by
  simp [blocks]

theorem blocks_of_writer (h : l.writer = true) (mode : LockMode) : l.blocks mode = true := by
  cases mode <;> simp [blocks, h]

/-- What has to wait has to wait all the more when more threads hold the lock or want it. -/
theorem blocks_mono (h : l.blocks mode = true) (writer : l.writer = true → l'.writer = true)
    (readers : l.readers ≤ l'.readers) (waiting : l.writersWaiting ≤ l'.writersWaiting) :
    l'.blocks mode = true := by
  cases mode with
  | read =>
      rw [blocks_read_iff] at *
      exact h.imp writer (by omega)
  | write =>
      rw [blocks_write_iff] at *
      exact h.imp writer (by omega)

end

/-! ## The counters -/

/-- Whether the counters of a lock are those of the threads, and every sleeper has to wait. -/
structure Tallies (l : Lock ι) (threads : List (Thread ι)) : Prop where
  readers : l.readers = threads.countP (Thread.holds .read)
  writer : l.writer.toNat = threads.countP (Thread.holds .write)
  waiting : l.writersWaiting = threads.countP (Thread.wants .write)
  alone : l.writer = true → l.readers = 0
  blocked : ∀ t ∈ threads, t.phase = .asleep → l.blocks t.mode = true

namespace Tallies

variable {l : Lock ι} {t : Thread ι} {threads rest : List (Thread ι)}

theorem perm (h : Tallies l threads) {threads' : List (Thread ι)} (same : threads.Perm threads') :
    Tallies l threads' where
  readers := h.readers.trans (same.countP_eq _)
  writer := h.writer.trans (same.countP_eq _)
  waiting := h.waiting.trans (same.countP_eq _)
  alone := h.alone
  blocked t ht := h.blocked t (same.mem_iff.mpr ht)

theorem writer_iff (h : Tallies l threads) :
    l.writer = true ↔ ∃ w ∈ threads, w.holds .write = true := by
  rw [← List.countP_pos_iff, ← h.writer]
  cases l.writer <;> simp

theorem exclusive (h : Tallies l threads) {w : Thread ι} (hw : w ∈ threads)
    (writes : w.holds .write = true) (ht : t ∈ threads) (holding : t.phase = .holding) : t = w := by
  have writing : l.writer = true := h.writer_iff.mpr ⟨w, hw, writes⟩
  have unread : threads.countP (Thread.holds .read) = 0 := h.readers ▸ h.alone writing
  have writer := h.writer
  rw [writing, List.countP_eq_length_filter] at writer
  obtain ⟨v, hv⟩ := List.length_eq_one_iff.mp writer.symm
  have unique {u : Thread ι} (hu : u ∈ threads) (writes : u.holds .write = true) : u = v :=
    List.mem_singleton.mp (hv ▸ List.mem_filter.mpr ⟨hu, writes⟩)
  cases mode : t.mode with
  | read =>
      have reads := List.countP_eq_zero.mp unread t ht
      simp [Thread.holds, holding, mode] at reads
  | write => rw [unique ht (by simp [Thread.holds, holding, mode]), unique hw writes]

theorem idle (h : Tallies l l.threads.items) (unheld : l.holders = [])
    (tested : ∀ t ∈ l.threads.items, t.phase ≠ .woken) : l.waiting = [] := by
  have sleeping : ∀ t ∈ l.threads.items, t.phase = .asleep := by
    intro t ht
    have outside := List.filter_eq_nil_iff.mp (List.map_eq_nil_iff.mp unheld) t ht
    rcases phase : t.phase with _ | _ | _
    · simp [phase] at outside
    · rfl
    · exact absurd phase (tested t ht)
  have unheld (mode : LockMode) : l.threads.items.countP (Thread.holds mode) = 0 := by
    refine List.countP_eq_zero.mpr fun t ht => ?_
    simp [Thread.holds, sleeping t ht]
  have readers : l.readers = 0 := h.readers.trans (unheld .read)
  have writer : l.writer = false := Bool.toNat_eq_zero.mp (h.writer.trans (unheld .write))
  -- a writer would be let in, and without one a reader would be
  have unwanted : l.writersWaiting = 0 := by
    rw [h.waiting]
    refine List.countP_eq_zero.mpr fun w hw wants => ?_
    have blocked := h.blocked w hw (sleeping w hw)
    have writes : w.mode = .write := by simpa [Thread.wants, sleeping w hw] using wants
    simp [writes, blocks, readers, writer] at blocked
  have nobody : l.threads.items = [] := by
    refine List.eq_nil_iff_forall_not_mem.mpr fun t ht => ?_
    have blocked := h.blocked t ht (sleeping t ht)
    cases mode : t.mode <;> simp [mode, blocks, readers, writer, unwanted] at blocked
  simp [Lock.waiting, nobody]

/-- A thread that asks is counted among those that are still to test. -/
theorem enlist (h : Tallies l threads) (id : ι) (mode : LockMode) :
    Tallies (l.enlist mode) (⟨id, mode, .woken⟩ :: threads) := by
  have sleepers (l' : Lock ι) (writer : l.writer = true → l'.writer = true)
      (readers : l.readers ≤ l'.readers) (waiting : l.writersWaiting ≤ l'.writersWaiting) :
      ∀ t ∈ (⟨id, mode, .woken⟩ : Thread ι) :: threads, t.phase = .asleep →
        l'.blocks t.mode = true := by
    intro t ht asleep
    rcases List.mem_cons.mp ht with rfl | ht
    · cases asleep
    · exact blocks_mono (h.blocked t ht asleep) writer readers waiting
  cases mode with
  | read =>
      exact {
        readers := by simp [Lock.enlist, h.readers, Thread.holds]
        writer := by simp [Lock.enlist, h.writer, Thread.holds]
        waiting := by simp [Lock.enlist, h.waiting, Thread.wants]
        alone := h.alone
        blocked := sleepers _ (fun h => h) (Nat.le_refl _) (Nat.le_refl _) }
  | write =>
      exact {
        readers := by simp [Lock.enlist, h.readers, Thread.holds]
        writer := by simp [Lock.enlist, h.writer, Thread.holds]
        waiting := by simp [Lock.enlist, h.waiting, Thread.wants]
        alone := h.alone
        blocked := sleepers _ (fun h => h) (Nat.le_refl _) (Nat.le_succ _) }

section

variable (h : Tallies l (t :: rest)) (wanting : t.phase ≠ .holding)
include h wanting

theorem readers_rest : l.readers = rest.countP (Thread.holds .read) := by
  rw [h.readers, List.countP_cons_of_neg (by simp [Thread.holds, wanting])]

theorem writer_rest : l.writer.toNat = rest.countP (Thread.holds .write) := by
  rw [h.writer, List.countP_cons_of_neg (by simp [Thread.holds, wanting])]

end

end Tallies

/-! ## The threads after a critical section -/

variable [DecidableEq ι] {l l' : Lock ι} {t u : Thread ι} {threads rest : List (Thread ι)}

/-- How a thread comes out of a test: asleep if it has to wait, else with the lock. -/
def tested (l : Lock ι) (t : Thread ι) : Thread ι :=
  { t with phase := if l.blocks t.mode then .asleep else .holding }

theorem perm_test (l : Lock ι) (t : Thread ι) :
    (l.test t).threads.items.Perm (l.tested t :: (l.threads.remove t.id).items) := by
  rw [test, tested]
  split
  · exact Register.perm_put _ _
  · cases t with
    | mk id mode phase => cases mode <;> exact Register.perm_put _ _

theorem items_wakeAll (l : Lock ι) : l.wakeAll.threads.items = l.threads.items.map wake := by
  refine Register.items_ofList ?_
  rw [List.map_map, id_wake]
  exact l.threads.nodup

namespace Tallies

section

variable (h : Tallies l (t :: rest)) (wanting : t.phase ≠ .holding)
include h wanting

/-- A thread that has to wait is counted as before. -/
theorem sleep (blocked : l.blocks t.mode = true) :
    Tallies (l.setPhase t .asleep) ({ t with phase := .asleep } :: rest) where
  readers := (h.readers_rest wanting).trans (List.countP_cons_of_neg (by simp [Thread.holds])).symm
  writer := (h.writer_rest wanting).trans (List.countP_cons_of_neg (by simp [Thread.holds])).symm
  waiting := by
    rw [setPhase, h.waiting, List.countP_cons, List.countP_cons]
    simp [Thread.wants, wanting]
  alone := h.alone
  blocked := by
    refine List.forall_mem_cons.mpr ⟨fun _ => blocked, ?_⟩
    exact fun u hu asleep => h.blocked u (List.mem_cons_of_mem t hu) asleep

theorem admit_reader (reads : t.mode = .read) (free : l.blocks .read = false) :
    Tallies (((l.delist .read).enter .read).setPhase t .holding)
      ({ t with phase := .holding } :: rest) where
  readers := by
    rw [List.countP_cons_of_pos (by simp [Thread.holds, reads]), ← h.readers_rest wanting]
    rfl
  writer := by
    rw [List.countP_cons_of_neg (by simp [Thread.holds, reads]), ← h.writer_rest wanting]
    rfl
  waiting := by
    have waiting := h.waiting
    rw [List.countP_cons_of_neg (by simp [Thread.wants, reads])] at waiting ⊢
    exact waiting
  alone writing := by
    rw [← Bool.not_eq_true, blocks_read_iff, not_or] at free
    exact absurd writing free.1
  blocked := by
    refine List.forall_mem_cons.mpr ⟨nofun, fun u hu asleep => ?_⟩
    have blocked := h.blocked u (List.mem_cons_of_mem t hu) asleep
    exact blocks_mono blocked id (Nat.le_succ _) (Nat.le_refl _)

theorem admit_writer (writes : t.mode = .write) (free : l.blocks .write = false) :
    Tallies (((l.delist .write).enter .write).setPhase t .holding)
      ({ t with phase := .holding } :: rest) where
  readers := by
    rw [List.countP_cons_of_neg (by simp [Thread.holds, writes]), ← h.readers_rest wanting]
    rfl
  writer := by
    rw [← Bool.not_eq_true, blocks_write_iff, not_or, Bool.not_eq_true] at free
    rw [List.countP_cons_of_pos (by simp [Thread.holds, writes]), ← h.writer_rest wanting, free.1]
    rfl
  waiting := by
    have waiting := h.waiting
    rw [List.countP_cons_of_pos (by simp [Thread.wants, writes, wanting])] at waiting
    rw [List.countP_cons_of_neg (by simp [Thread.wants])]
    exact Nat.sub_eq_of_eq_add waiting
  alone _ := by
    rw [← Bool.not_eq_true, blocks_write_iff, not_or, not_not] at free
    exact free.2
  blocked u _ _ := blocks_of_writer rfl u.mode

theorem test : Tallies (l.test t) (l.tested t :: rest) := by
  by_cases blocked : l.blocks t.mode = true
  · rw [Lock.test, tested, if_pos blocked, if_pos blocked]
    exact h.sleep wanting blocked
  · rw [Lock.test, tested, if_neg blocked, if_neg blocked]
    rw [Bool.not_eq_true] at blocked
    rcases t with ⟨id, _ | _, phase⟩
    · exact h.admit_reader wanting rfl blocked
    · exact h.admit_writer wanting rfl blocked

end

/-- Threads that are woken are counted as before, and none of them sleeps. -/
theorem woken (readers : l.readers = threads.countP (Thread.holds .read))
    (writer : l.writer.toNat = threads.countP (Thread.holds .write))
    (waiting : l.writersWaiting = threads.countP (Thread.wants .write))
    (alone : l.writer = true → l.readers = 0) : Tallies l.wakeAll (threads.map wake) where
  readers := by rw [List.countP_map, holds_wake]; exact readers
  writer := by rw [List.countP_map, holds_wake]; exact writer
  waiting := by rw [List.countP_map, wants_wake]; exact waiting
  alone := alone
  blocked t ht asleep := by
    obtain ⟨u, -, rfl⟩ := List.mem_map.mp ht
    exact absurd asleep (not_asleep_wake u)

/-- The last reader that leaves wakes the sleepers; before that a writer that sleeps has to wait for
the other readers, and a reader that sleeps for a writer. -/
theorem leave_reader {id : ι}
    (h : Tallies l (⟨id, .read, .holding⟩ :: (l.threads.remove id).items)) :
    Tallies (l.leave ⟨id, .read, .holding⟩) (l.leave ⟨id, .read, .holding⟩).threads.items := by
  have readers := h.readers
  have writer := h.writer
  have waiting := h.waiting
  rw [List.countP_cons_of_pos (by simp [Thread.holds])] at readers
  rw [List.countP_cons_of_neg (by simp [Thread.holds])] at writer
  rw [List.countP_cons_of_neg (by simp [Thread.wants])] at waiting
  have alone : ¬ l.writer = true := fun writing => by
    have none := h.alone writing
    omega
  have fewer : l.readers - 1 = (l.threads.remove id).items.countP (Thread.holds .read) := by omega
  simp only [leave]
  split
  · rw [items_wakeAll]
    exact woken fewer writer waiting fun writing => absurd writing alone
  · next others =>
    refine ⟨fewer, writer, waiting, fun writing => absurd writing alone, fun u hu asleep => ?_⟩
    have blocked := h.blocked u (List.mem_cons_of_mem _ hu) asleep
    rcases u with ⟨_, _ | _, _⟩
    · exact blocked
    · exact blocks_write_iff.mpr (.inr others)

theorem leave_writer {id : ι}
    (h : Tallies l (⟨id, .write, .holding⟩ :: (l.threads.remove id).items)) :
    Tallies (l.leave ⟨id, .write, .holding⟩) (l.leave ⟨id, .write, .holding⟩).threads.items := by
  have readers := h.readers
  have writer := h.writer
  have waiting := h.waiting
  rw [List.countP_cons_of_neg (by simp [Thread.holds])] at readers
  rw [List.countP_cons_of_pos (by simp [Thread.holds])] at writer
  rw [List.countP_cons_of_neg (by simp [Thread.wants])] at waiting
  have last : (l.threads.remove id).items.countP (Thread.holds .write) = 0 := by
    have single := Bool.toNat_le l.writer
    omega
  simp only [leave]
  rw [items_wakeAll]
  exact woken readers last.symm waiting nofun

theorem leave (h : Tallies l l.threads.items) (mem : t ∈ l.threads.items)
    (holding : t.phase = .holding) : Tallies (l.leave t) (l.leave t).threads.items := by
  have h := h.perm (Register.perm_cons_remove mem)
  rcases t with ⟨id, _ | _, phase⟩
  · subst holding
    exact h.leave_reader
  · subst holding
    exact h.leave_writer

end Tallies

/-! ## From one critical section to the next -/

/-- Nobody comes by the lock when another leaves. -/
theorem mem_of_mem_leave (h : t ∈ (l.leave u).threads.items) (holding : t.phase = .holding) :
    t ∈ l.threads.items := by
  have stayed (k : Lock ι) (hk : k.threads = l.threads.remove u.id)
      (h : t ∈ k.wakeAll.threads.items) : t ∈ l.threads.items := by
    rw [items_wakeAll, hk] at h
    obtain ⟨v, hv, rfl⟩ := List.mem_map.mp h
    rw [wake_of_holding holding]
    exact (Register.mem_remove.mp hv).1
  rcases u with ⟨id, _ | _, phase⟩
  · simp only [leave] at h
    split at h
    · exact stayed _ rfl h
    · exact (Register.mem_remove.mp h).1
  · exact stayed _ rfl h

/-- In a critical section a thread that wants the lock is tested, or a holder leaves. -/
theorem tests_or_leaves (step : Step l l') (tallies : Tallies l l.threads.items) :
    (∃ k t rest, t.phase ≠ .holding ∧ Tallies k (t :: rest) ∧ l' = k.test t ∧
      l'.threads.items.Perm (k.tested t :: rest) ∧ rest ⊆ l.threads.items ∧
      l.threads.items ⊆ t :: rest) ∨
    ∃ t ∈ l.threads.items, t.phase = .holding ∧ l' = l.leave t := by
  cases step with
  | ask id mode absent =>
      left
      have threads : (l.enlist mode).threads = l.threads := by cases mode <;> rfl
      have fresh : l.threads.has id = false := by rw [Register.has_eq_isSome_find?, absent]; rfl
      have asked : l.ask id mode = (l.enlist mode).test ⟨id, mode, .woken⟩ := by
        rw [ask, fresh]
        rfl
      have perm := perm_test (l.enlist mode) ⟨id, mode, .woken⟩
      rw [threads, Register.remove_of_find?_eq_none absent] at perm
      exact ⟨_, _, _, by simp, tallies.enlist id mode, asked, asked ▸ perm, List.Subset.refl _,
        List.subset_cons_self _ _⟩
  | retry t mem woken =>
      left
      have retried : l.retry t = l.test t := by rw [retry, if_pos woken]
      have parted := Register.perm_cons_remove mem
      exact ⟨l, t, (l.threads.remove t.id).items, by simp [woken], tallies.perm parted, retried,
        retried ▸ perm_test l t, fun u hu => (Register.mem_remove.mp hu).1, parted.subset⟩
  | release t mem holding =>
      right
      have found : l.threads.find? t.id = some t :=
        (Register.find?_key_eq_some_iff l.threads.nodup).mpr ⟨mem, rfl⟩
      have released : l.release t.id = l.leave t := by
        rw [release, found]
        exact if_pos holding
      exact ⟨t, mem, holding, released⟩

theorem Tallies.step (h : Tallies l l.threads.items) (step : Step l l') :
    Tallies l' l'.threads.items := by
  rcases tests_or_leaves step h with
    ⟨k, t, rest, wanting, hk, rfl, perm, -, -⟩ | ⟨t, mem, holding, rfl⟩
  · exact (hk.test wanting).perm perm.symm
  · exact h.leave mem holding

theorem tallies_of_reachable (h : Reachable l) : Tallies l l.threads.items := by
  induction h with
  | free => exact ⟨rfl, rfl, rfl, nofun, nofun⟩
  | step _ step ih => exact ih.step step

/-! ## Safety -/

structure Safe (l : Lock ι) : Prop where
  /-- A writer that holds the lock holds it alone. -/
  exclusive : ∀ w ∈ l.threads.items, w.holds .write = true →
    ∀ t ∈ l.threads.items, t.phase = .holding → t = w
  readers : l.readers = l.threads.items.countP (Thread.holds .read)
  writer : l.writer = true ↔ ∃ w ∈ l.threads.items, w.holds .write = true
  writersWaiting : l.writersWaiting = l.threads.items.countP (Thread.wants .write)
  /-- No reader comes by the lock while a writer waits for it. -/
  patient : ∀ l', Step l l' → ∀ t ∈ l'.threads.items, t.holds .read = true →
    t ∉ l.threads.items → ∀ w ∈ l.threads.items, w.wants .write = false
  /-- A thread sleeps only as long as it has to wait. -/
  asleep : ∀ t ∈ l.threads.items, t.phase = .asleep → l.blocks t.mode = true
  /-- Nobody waits for a lock that nobody holds, once all who were woken have tested again. -/
  idle : l.holders = [] → (∀ t ∈ l.threads.items, t.phase ≠ .woken) → l.waiting = []

namespace Tallies

theorem patient (h : Tallies l l.threads.items) (step : Step l l') (ht : t ∈ l'.threads.items)
    (reads : t.holds .read = true) (new : t ∉ l.threads.items) {w : Thread ι}
    (hw : w ∈ l.threads.items) : w.wants .write = false := by
  have holding : t.phase = .holding ∧ t.mode = .read := by simpa [Thread.holds] using reads
  rcases tests_or_leaves step h with
    ⟨k, u, rest, -, hk, rfl, perm, hrest, hitems⟩ | ⟨u, -, -, rfl⟩
  · obtain rfl : t = k.tested u := by
      rcases List.mem_cons.mp (perm.subset ht) with same | ht
      · exact same
      · exact absurd (hrest ht) new
    have free : k.blocks .read ≠ true := by
      intro blocked
      have asleep := holding.1
      rw [← holding.2, tested] at blocked
      rw [tested, if_pos blocked] at asleep
      cases asleep
    rw [Ne, blocks_read_iff, not_or, not_not] at free
    have unwanted := List.countP_eq_zero.mp (hk.waiting ▸ free.2) w (hitems hw)
    rwa [Bool.not_eq_true] at unwanted
  · exact absurd (mem_of_mem_leave ht holding.1) new

end Tallies

/-- However the threads take turns, a writer holds the lock alone, the counters are those of the
threads, no reader gets past a waiting writer, and no wakeup is lost. -/
theorem safe_of_reachable (h : Reachable l) : Safe l := by
  have tallies := tallies_of_reachable h
  exact {
    exclusive := fun w hw writes t ht holding => tallies.exclusive hw writes ht holding
    readers := tallies.readers
    writer := tallies.writer_iff
    writersWaiting := tallies.waiting
    patient := fun l' step t ht reads new w hw => tallies.patient step ht reads new hw
    asleep := tallies.blocked
    idle := tallies.idle }

namespace Sample

/-- A writer and a reader are asleep while the first reader holds the lock. -/
def held : Lock Nat := ((free.ask 1 .read).ask 2 .write).ask 3 .read

/-- The first reader has left; the other one was woken, and sleeps again because of the writer. -/
def contended : Lock Nat := (held.release 1).retry ⟨3, .read, .woken⟩

end Sample

theorem safe_of_reachable_sample :
    Reachable Sample.contended ∧ Sample.contended.waiting = [2, 3] ∧ Safe Sample.contended := by
  have held : Reachable Sample.held :=
    ((Reachable.free.step (.ask _ 1 .read rfl)).step (.ask _ 2 .write rfl)).step (.ask _ 3 .read rfl)
  have left : Reachable (Sample.held.release 1) :=
    held.step (.release _ ⟨1, .read, .holding⟩ (by decide) rfl)
  have contended : Reachable Sample.contended :=
    left.step (.retry _ ⟨3, .read, .woken⟩ (by decide) rfl)
  exact ⟨contended, by decide, safe_of_reachable contended⟩

/-! ## Settling -/

/-- Threads that test again one after the other: whoever was woken is asleep or holds the lock in the
end. -/
theorem reachable_settles {pending : List (Thread ι)} (nodup : (pending.map Thread.id).Nodup)
    (h : Reachable l) (there : ∀ t ∈ pending, t.phase = .woken → t ∈ l.threads.items)
    (all : ∀ t ∈ l.threads.items, t.phase = .woken → t ∈ pending) :
    Reachable (pending.foldl retry l) ∧
      ∀ t ∈ (pending.foldl retry l).threads.items, t.phase ≠ .woken := by
  induction pending generalizing l with
  | nil => exact ⟨h, fun t ht woken => List.not_mem_nil (all t ht woken)⟩
  | cons t rest ih =>
      rw [List.map_cons, List.nodup_cons] at nodup
      rw [List.foldl_cons]
      by_cases woken : t.phase = .woken
      · have perm := perm_test l t
        have retried : l.retry t = l.test t := by rw [retry, if_pos woken]
        refine ih nodup.2 (h.step (.retry l t (there t List.mem_cons_self woken) woken)) ?_ ?_
        · intro u hu woken
          have other : u.id ≠ t.id := fun same => nodup.1 (same ▸ List.mem_map_of_mem hu)
          rw [retried, perm.mem_iff]
          exact List.mem_cons_of_mem _
            (Register.mem_remove.mpr ⟨there u (List.mem_cons_of_mem t hu) woken, other⟩)
        · intro u hu stillWoken
          rw [retried, perm.mem_iff] at hu
          rcases List.mem_cons.mp hu with rfl | hu
          · rw [tested] at stillWoken
            split at stillWoken <;> cases stillWoken
          · obtain ⟨hu, other⟩ := Register.mem_remove.mp hu
            rcases List.mem_cons.mp (all u hu stillWoken) with rfl | hu
            · exact absurd rfl other
            · exact hu
      · have same : l.retry t = l := if_neg woken
        rw [same]
        refine ih nodup.2 h (fun u hu => there u (List.mem_cons_of_mem t hu)) ?_
        intro u hu stillWoken
        rcases List.mem_cons.mp (all u hu stillWoken) with rfl | hu
        · exact absurd stillWoken woken
        · exact hu

/-- No wakeup is lost: once all who were woken have tested again, nobody waits for a lock that nobody
holds. -/
theorem waiting_settle (h : Reachable l) (unheld : l.settle.holders = []) : l.settle.waiting = [] := by
  obtain ⟨settled, tested⟩ := reachable_settles l.threads.nodup h (fun _ ht _ => ht) fun _ ht _ => ht
  exact (tallies_of_reachable settled).idle unheld tested

end Lock

end NodeRelief
