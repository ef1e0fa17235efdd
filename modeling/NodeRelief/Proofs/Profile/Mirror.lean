import NodeRelief.Proofs.Profile.Moment
import NodeRelief.Proofs.Profile.Server
import Mathlib.Logic.Relation

/-!
# The store mirrors the server

A watch and the server it watches, step by step. The server changes whenever it likes; what it answers
and delivers to the watch is what it holds and what has happened to it. Calls and streams may fail at
any time. From the first list on, the store has what the server held at the version of the last list
or change that the watch took in, and the watch follows from that version.
-/

namespace NodeRelief.Watch

open Document (part)

/-- The versions that streams were opened at, each with the store at that moment. -/
def openings (w : Watch) : List (Document × ProfileStore) :=
  w.steps.filterMap fun
    | .opened version _ store => some (version, store)
    | _ => none

def Stage.version? : Stage → Option Document
  | .opening version | .reading version _ => some version
  | .listing | .ended _ => none

/-- A watch amid its server. -/
structure Session where
  moment : Moment
  /-- How many changes have happened. -/
  head : Nat
  /-- How many changes come before what the open stream delivers next. -/
  cursor : Nat
  /-- How many changes the last list or change that the watch took in stands for. -/
  taken : Option Nat

/-! ## What a watch alone leaves as it is -/

@[simp] theorem openings_opening (w : Watch) (version : Document) :
    (w.opening version).openings = w.openings ++ [(version, w.store)] := by
  simp [openings, opening, step]

@[simp] theorem openings_listed (w : Watch) (timeout : Document) (store : ProfileStore) :
    (w.step (.listed timeout store)).openings = w.openings := by
  simp [openings, step]

/-- Whether two watches have the same store, are synced alike and opened the same streams. -/
structure Alike (w w' : Watch) : Prop where
  store : w'.store = w.store
  synced : w'.synced = w.synced
  openings : w'.openings = w.openings

namespace Alike

theorem refl (w : Watch) : Alike w w := ⟨rfl, rfl, rfl⟩

theorem trans {w w' w'' : Watch} (h : Alike w w') (h' : Alike w' w'') : Alike w w'' :=
  ⟨h'.store.trans h.store, h'.synced.trans h.synced, h'.openings.trans h.openings⟩

theorem stop (w : Watch) : Alike w w.stop := ⟨rfl, rfl, rfl⟩

theorem closed (w : Watch) : Alike w (w.step (.closed w.store)) :=
  ⟨rfl, rfl, by simp [Watch.openings, step]⟩

theorem wait (w : Watch) : Alike w w.wait.2 := by
  rw [Watch.wait]
  split
  · exact ⟨rfl, rfl, by simp [Watch.openings, step]⟩
  · exact refl w

theorem settled (r : Result Unit) : Alike r.watch (settled r).watch := by
  rcases r with ⟨f | _, w, streams⟩
  · simp only [Watch.settled]
    split_ifs
    · exact refl w
    · exact refl w
    · exact wait w
  · exact wait w

end Alike

namespace Moment

/-- Whether one moment follows on another outside of all streams, with no list or change taken in. -/
structure Leaves (m m' : Moment) : Prop where
  alike : Alike m.watch m'.watch
  version : m'.stage.version? = none

theorem leaves_after {m : Moment} {r : Result Unit} (h : Alike m.watch r.watch)
    (answers : List (Except Fault Document)) : Leaves m (after answers (settled r)) := by
  have halike := h.trans (.settled r)
  rcases hr : settled r with ⟨_ | _, w, streams⟩
  · rw [hr] at halike
    exact ⟨halike, rfl⟩
  · rw [hr] at halike
    exact ⟨halike, rfl⟩

section

variable {w : Watch} {streams : List (List StreamItem)} {answers : List (Except Fault Document)}
  {version e : Document} {items : List StreamItem}

theorem leaves_refused (hw : w.stopped = false) (f : Fault) :
    Leaves ⟨.listing, w, streams, .error f :: answers⟩
      (next ⟨.listing, w, streams, .error f :: answers⟩) := by
  simp only [next, hw, Bool.false_eq_true, if_false, list, relist, takeList]
  exact leaves_after ⟨rfl, rfl, openings_listed ..⟩ _

theorem leaves_failed (hw : w.stopped = false) (kind : part "type" e = .ok (.text "ERROR")) :
    Leaves ⟨.reading version (.event e false :: items), w, streams, answers⟩
      (next ⟨.reading version (.event e false :: items), w, streams, answers⟩) := by
  obtain ⟨f, hf⟩ := Server.onEvent_error kind version w
  simp only [next, Bool.false_eq_true, if_false, hw, take, hf]
  exact leaves_after (.refl w) _

theorem leaves_broken (f : Fault) :
    Leaves ⟨.reading version (.broken f :: items), w, streams, answers⟩
      (next ⟨.reading version (.broken f :: items), w, streams, answers⟩) :=
  leaves_after (.refl w) _

theorem leaves_dropped {stops : Bool} (stopped : (stops || w.stopped) = true) :
    Leaves ⟨.reading version (.event e stops :: items), w, streams, answers⟩
      (next ⟨.reading version (.event e stops :: items), w, streams, answers⟩) := by
  have hstopped : (if stops then w.stop else w).stopped = true := by
    cases stops
    · exact stopped
    · rfl
  have halike : Alike w (if stops then w.stop else w) := by
    cases stops
    · exact .refl w
    · exact .stop w
  simp only [next, hstopped, if_true]
  exact leaves_after (halike.trans (.closed _)) _

theorem leaves_stopped {stage : Stage} (hstage : stage = .listing ∨ ∃ version, stage = .opening version)
    (stopped : w.stopped = true) :
    Leaves ⟨stage, w, streams, answers⟩ (next ⟨stage, w, streams, answers⟩) := by
  rcases hstage with rfl | ⟨version, rfl⟩
  · rw [next, if_pos stopped]
    exact ⟨.refl w, rfl⟩
  · rw [next, if_pos stopped]
    exact leaves_after (.refl w) _

end

end Moment

namespace Session

def begin (w : Watch) (streams : List (List StreamItem)) (answers : List (Except Fault Document))
    (head : Nat) : Session :=
  ⟨⟨.listing, w, streams, answers⟩, head, 0, none⟩

/-- What the server does, and what the watch does with it. -/
inductive Step (srv : Server) (s : Session) : Session → Prop where
  | happens : Step srv s { s with head := s.head + 1 }
  | listed {answer : Document} {rest : List (Except Fault Document)} {listed : List Told}
      (stage : s.moment.stage = .listing) (running : s.moment.watch.stopped = false)
      (answers : s.moment.answers = .ok answer :: rest) (lists : srv.Lists s.head listed answer) :
      Step srv s { s with moment := s.moment.next, taken := some s.head }
  | refused {f : Fault} {rest : List (Except Fault Document)}
      (stage : s.moment.stage = .listing) (running : s.moment.watch.stopped = false)
      (answers : s.moment.answers = .error f :: rest) :
      Step srv s { s with moment := s.moment.next }
  /-- The server delivers from the version asked for; any version it does not know it takes for
  whatever it likes. -/
  | opened {version : Document} {cursor : Nat}
      (stage : s.moment.stage = .opening version) (running : s.moment.watch.stopped = false)
      (known : ∀ p, version = .text (srv.version p) → cursor = p) :
      Step srv s { s with moment := s.moment.next, cursor }
  | changed {version e : Document} {items : List StreamItem}
      (stage : s.moment.stage = .reading version (.event e false :: items))
      (running : s.moment.watch.stopped = false)
      (tells : (srv.change s.cursor).Tells e) (happened : s.cursor < s.head) :
      Step srv s ⟨s.moment.next, s.head, s.cursor + 1, some (s.cursor + 1)⟩
  | marked {version e : Document} {items : List StreamItem}
      (stage : s.moment.stage = .reading version (.event e false :: items))
      (running : s.moment.watch.stopped = false) (marks : srv.Marks s.cursor e) :
      Step srv s { s with moment := s.moment.next }
  /-- An error is told as an event, that of an expired version among them. -/
  | failed {version e : Document} {items : List StreamItem}
      (stage : s.moment.stage = .reading version (.event e false :: items))
      (running : s.moment.watch.stopped = false) (kind : part "type" e = .ok (.text "ERROR")) :
      Step srv s { s with moment := s.moment.next }
  | broken {version : Document} {f : Fault} {items : List StreamItem}
      (stage : s.moment.stage = .reading version (.broken f :: items)) :
      Step srv s { s with moment := s.moment.next }
  | closed {version : Document} (stage : s.moment.stage = .reading version []) :
      Step srv s { s with moment := s.moment.next }
  /-- Whatever arrives once the watch is asked to stop. -/
  | dropped {version e : Document} {stops : Bool} {items : List StreamItem}
      (stage : s.moment.stage = .reading version (.event e stops :: items))
      (stopped : (stops || s.moment.watch.stopped) = true) :
      Step srv s { s with moment := s.moment.next }
  | stopped (stage : s.moment.stage = .listing ∨ ∃ version, s.moment.stage = .opening version)
      (stopped : s.moment.watch.stopped = true) :
      Step srv s { s with moment := s.moment.next }

/-- Any number of steps. -/
def Run (srv : Server) : Session → Session → Prop := Relation.ReflTransGen (Step srv)

variable {srv : Server} {s s' : Session}

theorem Step.finish (h : Step srv s s') : s'.moment.finish = s.moment.finish := by
  cases h with
  | happens => rfl
  | _ => exact Moment.finish_next _

theorem Run.finish (h : Run srv s s') : s'.moment.finish = s.moment.finish := by
  induction h with
  | refl => rfl
  | tail _ hstep ih => exact hstep.finish.trans ih

/-! ## Streams opened so far -/

/-- Whether every stream was opened at the version that the store mirrored, and these versions never
went back, nor beyond that after `p` changes. -/
def Opened (srv : Server) (p : Nat) (w : Watch) : Prop :=
  ∃ places : List Nat,
    List.Forall₂ (fun o q => o.1 = .text (srv.version q) ∧ srv.Mirrored q o.2) w.openings places ∧
    places.Pairwise (· ≤ ·) ∧ ∀ q ∈ places, q ≤ p

namespace Opened

variable {w w' : Watch} {p q : Nat}

theorem of_openings_eq_nil (h : w.openings = []) : Opened srv p w :=
  ⟨[], h ▸ .nil, .nil, by simp⟩

theorem of_openings_eq (h : Opened srv p w) (heq : w'.openings = w.openings) : Opened srv p w' := by
  rw [Opened, heq]
  exact h

theorem mono (h : Opened srv p w) (hpq : p ≤ q) : Opened srv q w := by
  obtain ⟨places, hplaces, hsorted, hle⟩ := h
  exact ⟨places, hplaces, hsorted, fun r hr => (hle r hr).trans hpq⟩

theorem opening (h : Opened srv p w) (hw : srv.Mirrored p w.store) :
    Opened srv p (w.opening (.text (srv.version p))) := by
  obtain ⟨places, hplaces, hsorted, hle⟩ := h
  refine ⟨places ++ [p], ?_, ?_, ?_⟩
  · rw [openings_opening]
    exact List.rel_append hplaces (.cons ⟨rfl, hw⟩ .nil)
  · rw [List.pairwise_append]
    refine ⟨hsorted, List.pairwise_singleton .., ?_⟩
    intro q hq r hr
    exact (List.mem_singleton.mp hr) ▸ hle q hq
  · intro q hq
    rcases List.mem_append.mp hq with hq | hq
    · exact hle q hq
    · exact (List.mem_singleton.mp hq).le

end Opened

/-! ## From the first list on -/

/-- The last list or change taken in stands for `p` changes: the store has what the server held after
these, and the watch goes on from their version. -/
structure At (srv : Server) (p : Nat) (s : Session) : Prop where
  taken : s.taken = some p
  le_head : p ≤ s.head
  synced : s.moment.watch.synced = true
  store : srv.Mirrored p s.moment.watch.store
  /-- A stream is opened, or gone on with, at the version taken in. -/
  version : ∀ v, s.moment.stage.version? = some v → v = .text (srv.version p)
  cursor : ∀ v items, s.moment.stage = .reading v items → s.cursor = p
  opened : Opened srv p s.moment.watch

namespace At

variable {p : Nat} {w : Watch} {streams : List (List StreamItem)}
  {answers : List (Except Fault Document)} {version e : Document} {items : List StreamItem}
  {head cursor : Nat} {taken : Option Nat}

theorem leave (h : At srv p s) {m : Moment} (hm : s.moment.Leaves m) :
    At srv p { s with moment := m } where
  taken := h.taken
  le_head := h.le_head
  synced := hm.alike.synced.trans h.synced
  store := by rw [hm.alike.store]; exact h.store
  version v hv := by rw [hm.version] at hv; cases hv
  cursor v items hv := by
    have hversion := hm.version
    rw [hv] at hversion
    cases hversion
  opened := h.opened.of_openings_eq hm.alike.openings

/-- A list brings the store to what the server holds, wherever it was. -/
theorem listed {answer : Document} {told : List Told} (hw : w.stopped = false)
    (lists : srv.Lists head told answer) (hopened : Opened srv head w) :
    At srv head
      ⟨.next ⟨.listing, w, streams, .ok answer :: answers⟩, head, cursor, some head⟩ := by
  obtain ⟨feed, hmirrored, hrelist⟩ := lists.relist w
  simp only [Moment.next, hw, Bool.false_eq_true, if_false, Moment.list, hrelist]
  exact {
    taken := rfl
    le_head := le_rfl
    synced := rfl
    store := hmirrored
    version := by rintro v ⟨⟩; rfl
    cursor := by rintro v items ⟨⟩
    opened := hopened.of_openings_eq (openings_listed ..) }

/-- The server delivers from the place that the store mirrors. -/
theorem follows (h : At srv p ⟨⟨.opening version, w, streams, answers⟩, head, cursor, taken⟩)
    (hw : w.stopped = false) {cursor' : Nat}
    (known : ∀ p, version = .text (srv.version p) → cursor' = p) :
    At srv p ⟨.next ⟨.opening version, w, streams, answers⟩, head, cursor', taken⟩ := by
  obtain rfl : version = .text (srv.version p) := h.version version rfl
  have hopened := h.opened.opening h.store
  simp only [Moment.next, hw, Bool.false_eq_true, if_false]
  cases streams with
  | nil =>
      -- no stream is left in the script: one is opened still, and the watch is asked to stop
      have hat : At srv p
          ⟨⟨.listing, w.opening (.text (srv.version p)), [], answers⟩, head, cursor', taken⟩ :=
        { h with
          version := by rintro v ⟨⟩
          cursor := by rintro v items ⟨⟩
          opened := hopened }
      exact hat.leave (Moment.leaves_after (.stop _) answers)
  | cons stream rest =>
      exact {
        taken := h.taken
        le_head := h.le_head
        synced := h.synced
        store := h.store
        version := h.version
        cursor := fun _ _ _ => known p rfl
        opened := hopened }

/-- A change that follows on the store's place brings the store to the next place. -/
theorem changed
    (h : At srv p
      ⟨⟨.reading version (.event e false :: items), w, streams, answers⟩, head, cursor, taken⟩)
    (hw : w.stopped = false) (tells : (srv.change cursor).Tells e) (happened : cursor < head) :
    At srv (p + 1)
      ⟨.next ⟨.reading version (.event e false :: items), w, streams, answers⟩, head, cursor + 1,
        some (cursor + 1)⟩ := by
  obtain rfl : cursor = p := h.cursor version _ rfl
  obtain ⟨feed, hmirrored, hevent⟩ := Server.onEvent_change tells h.store version
  simp only [Moment.next, Bool.false_eq_true, if_false, hw, Moment.take, hevent]
  exact {
    taken := rfl
    le_head := happened
    synced := h.synced
    store := hmirrored
    version := by rintro v ⟨⟩; rfl
    cursor := by rintro v items ⟨⟩; rfl
    opened := h.opened.mono (Nat.le_succ _) }

theorem marked
    (h : At srv p
      ⟨⟨.reading version (.event e false :: items), w, streams, answers⟩, head, cursor, taken⟩)
    (hw : w.stopped = false) (marks : srv.Marks cursor e) :
    At srv p
      ⟨.next ⟨.reading version (.event e false :: items), w, streams, answers⟩, head, cursor,
        taken⟩ := by
  obtain rfl : cursor = p := h.cursor version _ rfl
  obtain rfl : version = .text (srv.version cursor) := h.version version rfl
  simp only [Moment.next, Bool.false_eq_true, if_false, hw, Moment.take, Server.onEvent_mark marks]
  exact { h with version := by rintro v ⟨⟩; rfl, cursor := by rintro v items ⟨⟩; rfl }

theorem closed (h : At srv p ⟨⟨.reading version [], w, streams, answers⟩, head, cursor, taken⟩) :
    At srv p ⟨.next ⟨.reading version [], w, streams, answers⟩, head, cursor, taken⟩ :=
  { h with
    version := by rintro v ⟨⟩; exact h.version version rfl
    cursor := by rintro v items ⟨⟩ }

/-- What one step preserves: the store goes from one state of the server to that or a later one. -/
theorem step (h : At srv p s) (hstep : Step srv s s') : ∃ q, p ≤ q ∧ At srv q s' := by
  rcases s with ⟨⟨stage, w, streams, answers⟩, head, cursor, taken⟩
  cases hstep with
  | happens => exact ⟨p, le_rfl, { h with le_head := h.le_head.trans (Nat.le_succ _) }⟩
  | listed stage running answers lists =>
      subst stage answers
      exact ⟨head, h.le_head, listed running lists (h.opened.mono h.le_head)⟩
  | refused stage running answers =>
      subst stage answers
      exact ⟨p, le_rfl, h.leave (Moment.leaves_refused running _)⟩
  | opened stage running known =>
      subst stage
      exact ⟨p, le_rfl, h.follows running known⟩
  | changed stage running tells happened =>
      subst stage
      exact ⟨p + 1, Nat.le_succ p, h.changed running tells happened⟩
  | marked stage running marks =>
      subst stage
      exact ⟨p, le_rfl, h.marked running marks⟩
  | failed stage running kind =>
      subst stage
      exact ⟨p, le_rfl, h.leave (Moment.leaves_failed running kind)⟩
  | broken stage =>
      subst stage
      exact ⟨p, le_rfl, h.leave (Moment.leaves_broken _)⟩
  | closed stage =>
      subst stage
      exact ⟨p, le_rfl, h.closed⟩
  | dropped stage stopped =>
      subst stage
      exact ⟨p, le_rfl, h.leave (Moment.leaves_dropped stopped)⟩
  | stopped stage stopped => exact ⟨p, le_rfl, h.leave (Moment.leaves_stopped stage stopped)⟩

theorem run (h : At srv p s) (hrun : Run srv s s') : ∃ q, p ≤ q ∧ At srv q s' := by
  induction hrun with
  | refl => exact ⟨p, le_rfl, h⟩
  | tail _ hstep ih =>
      obtain ⟨q, hpq, hq⟩ := ih
      obtain ⟨r, hqr, hr⟩ := hq.step hstep
      exact ⟨r, hpq.trans hqr, hr⟩

end At

/-! ## Before the first list -/

/-- No list has been taken in, and no stream opened. -/
structure Unsynced (s : Session) : Prop where
  synced : s.moment.watch.synced = false
  version : s.moment.stage.version? = none
  openings : s.moment.watch.openings = []

namespace Unsynced

theorem leave (h : Unsynced s) {m : Moment} (hm : s.moment.Leaves m) :
    Unsynced { s with moment := m } where
  synced := hm.alike.synced.trans h.synced
  version := hm.version
  openings := hm.alike.openings.trans h.openings

theorem step (h : Unsynced s) (hstep : Step srv s s') : Unsynced s' ∨ ∃ p, At srv p s' := by
  rcases s with ⟨⟨stage, w, streams, answers⟩, head, cursor, taken⟩
  have outside := h.version
  cases hstep with
  | happens => exact .inl { h with }
  | listed stage running answers lists =>
      subst stage answers
      exact .inr ⟨head, .listed running lists (.of_openings_eq_nil h.openings)⟩
  | refused stage running answers =>
      subst stage answers
      exact .inl (h.leave (Moment.leaves_refused running _))
  | stopped stage stopped => exact .inl (h.leave (Moment.leaves_stopped stage stopped))
  | opened stage | changed stage | marked stage | failed stage | broken stage | closed stage
  | dropped stage =>
      subst stage
      cases outside

theorem run (h : Unsynced s) (hrun : Run srv s s') : Unsynced s' ∨ ∃ p, At srv p s' := by
  induction hrun with
  | refl => exact .inl h
  | tail _ hstep ih =>
      rcases ih with hunsynced | ⟨p, hat⟩
      · exact hunsynced.step hstep
      · obtain ⟨q, -, hq⟩ := hat.step hstep
        exact .inr ⟨q, hq⟩

end Unsynced

/-! ## The whole run -/

theorem unsynced_begin (settings : WatchSettings) (store : ProfileStore) (stopped : Bool)
    (streams : List (List StreamItem)) (answers : List (Except Fault Document)) (head : Nat) :
    Unsynced (begin (start settings store stopped) streams answers head) :=
  ⟨rfl, rfl, rfl⟩

/-- Whatever the server goes through, wherever its streams are cut and whatever fails: at every moment
of the loop from the first list on, the store has exactly what the server held after the changes that
the last list or change taken in stands for, streams are opened at the version of these, and they
never become fewer. -/
theorem store_mirrors_server {settings : WatchSettings} {store : ProfileStore} {stopped : Bool}
    {streams : List (List StreamItem)} {answers : List (Except Fault Document)} {head : Nat}
    (hrun : Run srv (begin (start settings store stopped) streams answers head) s)
    (hsynced : s.moment.watch.synced = true) (hlater : Run srv s s') :
    s'.moment.finish = loop (start settings store stopped) streams answers ∧
    ∃ p q, p ≤ q ∧ At srv p s ∧ At srv q s' := by
  constructor
  · rw [hlater.finish, hrun.finish]
    rfl
  · rcases (unsynced_begin ..).run hrun with hunsynced | ⟨p, hp⟩
    · rw [hunsynced.synced] at hsynced
      cases hsynced
    · obtain ⟨q, hpq, hq⟩ := hp.run hlater
      exact ⟨p, q, hpq, hp, hq⟩

namespace Sample

def version (p : Nat) : String := .ofList (.replicate (p + 1) 'v')

def document (p : Nat) : Document :=
  .object [
    ("metadata", .object [("name", .text "web"), ("resourceVersion", .text (version (p + 1)))]),
    ("spec", .object [("evictionPriority", .int p)])]

def told (p : Nat) : Told where
  document := document p
  profile := ⟨.text "web", .int p, .null, .null, .text (version (p + 1))⟩
  decodes := rfl

theorem length_version (p : Nat) : (version p).toList.length = p + 1 := by
  rw [version, String.toList_ofList, List.length_replicate]

/-- One profile comes and goes. -/
def server : Server where
  change p := ⟨if p % 2 = 0 then .added else .deleted, told p⟩
  version := version
  own p q h := by
    have hlength := length_version q
    rw [← h, length_version] at hlength
    omega
  nonempty p h := by
    have hlength := length_version (p + 1)
    rw [h] at hlength
    cases hlength
  carried _ := rfl

def list (p : Nat) : Document :=
  .object [("metadata", .object [("resourceVersion", .text (version p))]), ("items", .null)]

def event (kind : String) (object : Document) : Document :=
  .object [("type", .text kind), ("object", object)]

def streams : List (List StreamItem) :=
  [[.event (event "ADDED" (document 0)) false],
    [.event (event "ERROR" (.object [("code", .int 410)])) false]]

def answers : List (Except Fault Document) := [.ok (list 0), .ok (list 2)]

theorem lists (p : Nat) (h : ∀ k, server.held p k = none) : server.Lists p [] (list p) where
  version := rfl
  items := ⟨.null, rfl, rfl⟩
  nodup := .nil
  complete t := by simp [h]

theorem held_two (k : Document) : server.held 2 k = none := by
  simp [Server.held, Function.update_apply, server, Change.leaves, told, Told.key, Profile.key]

theorem tells : (server.change 0).Tells (event "ADDED" (document 0)) := ⟨rfl, rfl⟩

theorem opens (p : Nat) (stage : s.moment.stage = .opening (.text (version p)))
    (running : s.moment.watch.stopped = false) :
    Step server s { s with moment := s.moment.next, cursor := p } :=
  .opened stage running fun _ hq => server.own (Document.text.inj hq)

def watch : Watch := start ⟨.int 30, .int 300, .int 5⟩ .empty false

def first : Session := ⟨.next ⟨.listing, watch, streams, answers⟩, 0, 0, some 0⟩

def last : Session := ⟨Moment.next^[6] first.moment, 2, 1, some 2⟩

end Sample

/-- A profile is added, the next stream has expired, and a list tells that the profile is gone. The first
stream was opened at the version of the first list, with nothing in the store, and the next one at the
version that came with the profile. -/
theorem store_mirrors_server_sample :
    Run Sample.server (begin Sample.watch Sample.streams Sample.answers 0) Sample.first ∧
      Sample.first.moment.watch.synced = true ∧ Run Sample.server Sample.first Sample.last ∧
      Sample.last.moment.finish = loop Sample.watch Sample.streams Sample.answers ∧
      At Sample.server 0 Sample.first ∧ At Sample.server 2 Sample.last ∧
      Sample.last.moment.watch.openings =
        [(.text "v", .empty),
          (.text "vv", .ofList [⟨.text "web", .int 0, .null, .null, .text "vv"⟩])] := by
  have hfirst : Run Sample.server (begin Sample.watch Sample.streams Sample.answers 0) Sample.first :=
    .single (.listed rfl rfl rfl (Sample.lists 0 fun _ => rfl))
  have hlast : Run Sample.server Sample.first Sample.last := by
    refine .head (Sample.opens 0 rfl rfl) (.head .happens ?_)
    refine .head (.changed rfl rfl Sample.tells Nat.one_pos) (.head (.closed rfl) ?_)
    refine .head (Sample.opens 1 rfl rfl) (.head (.failed rfl rfl rfl) (.head .happens ?_))
    exact .single (.listed rfl rfl rfl (Sample.lists 2 Sample.held_two))
  obtain ⟨finish, p, q, -, hp, hq⟩ := store_mirrors_server hfirst rfl hlast
  obtain rfl : 0 = p := Option.some.inj hp.taken
  obtain rfl : 2 = q := Option.some.inj hq.taken
  exact ⟨hfirst, rfl, hlast, finish, hp, hq, rfl⟩

end Session

end NodeRelief.Watch
