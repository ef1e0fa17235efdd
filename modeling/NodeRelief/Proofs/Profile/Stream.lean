import NodeRelief.Proofs.Profile.Deeds
import NodeRelief.Proofs.Profile.Metadata
import NodeRelief.Proofs.Profile.Mirror
import NodeRelief.Proofs.Profile.Replay

/-! # Streams of any events

What streams do whose events are about any documents at all. Every event is handed on until the watch is
asked to stop, and streams are opened at the versions that the events reach. Only an object whose
metadata are neither an object nor nothing ends the watching: it is handed on, and then its version
cannot be looked for. -/

namespace NodeRelief.Watch

/-- An event as a stream delivers it, with anything for its kind but that of an error. -/
structure Delivery where
  event : Document
  kind : Document
  object : Document
  hands : Hands event kind object
  /-- Whether the watch is asked to stop just before it arrives. -/
  stops : Bool

namespace Delivery

def item (d : Delivery) : StreamItem := .event d.event d.stops

/-- Hands an event on. -/
def onto (f : Feed) (d : Delivery) : Feed := f.apply (.ofText d.kind) (.document d.object)

def metadata (d : Delivery) : Document := d.object.under "metadata"

def isLegible (d : Delivery) : Bool := d.metadata.isLegible

def carried (d : Delivery) : Document := d.metadata.member "resourceVersion"

/-- The version reached with an event: its own, unless that counts as nothing. -/
def advance (version : Document) (d : Delivery) : Document := d.carried.orElse version

/-- Whether there is no version that could be followed. -/
def Versionless (d : Delivery) : Prop := d.metadata.hasFields = false ∨ d.carried.isTruthy = false

/-- Whether a stream goes on with what comes behind. -/
def passes (d : Delivery) : Bool := !d.stops && d.isLegible

theorem passes_iff {d : Delivery} : d.passes = true ↔ d.stops = false ∧ d.isLegible = true := by
  simp [passes]

theorem onEvent (d : Delivery) (version : Document) (w : Watch) :
    onEvent d.event version w =
      (if d.isLegible then .ok (d.advance version) else .error .noField,
        { w with feed := d.onto w.feed }) := by
  rw [d.hands.onEvent, nextVersion_eq]
  rfl

theorem store_onto {d : Delivery} (h : Feed.profile? d.object = none) (f : Feed) :
    (d.onto f).store = f.store := by
  rw [onto, Feed.store_apply, Feed.change, h]

theorem advance_of_versionless {d : Delivery} (h : d.Versionless) (version : Document) :
    d.advance version = version := by
  have nothing : d.carried.isTruthy = false := by
    rcases h with fieldless | nothing
    · rw [carried, Document.member_of_not_hasFields _ fieldless]
      rfl
    · exact nothing
  rw [advance, Document.orElse, nothing]
  rfl

end Delivery

/-- The watch once events have been handed on. -/
def hand (w : Watch) (ds : List Delivery) : Watch := { w with feed := ds.foldl Delivery.onto w.feed }

/-! ## One stream -/

section

variable {w : Watch} {d : Delivery} {ds : List Delivery} (version : Document)
  (items : List StreamItem)

theorem drain_of_stops (stops : d.stops = true) :
    drain version w (d.item :: items) = (.ok none, w.stop.step (.closed w.store)) := by
  simp only [Delivery.item, drain, stops]
  rfl

/-- An event before the stop is taken in. -/
theorem drain_of_goes (running : w.stopped = false) (goes : d.stops = false) :
    drain version w (d.item :: items) =
      match onEvent d.event version w with
      | (.error f, w) => (.error f, w)
      | (.ok version, w) => drain version w items := by
  have still : ¬ (if d.stops then w.stop else w).stopped = true := by simp [goes, running]
  rw [Delivery.item, drain, if_neg still, goes]
  rfl

theorem drain_of_illegible (running : w.stopped = false) (goes : d.stops = false)
    (illegible : d.isLegible = false) :
    drain version w (d.item :: items) = (.error .noField, w.hand [d]) := by
  rw [drain_of_goes version items running goes, d.onEvent, illegible]
  rfl

theorem drain_of_passes (running : w.stopped = false) (passes : d.passes = true) :
    drain version w (d.item :: items) = drain (d.advance version) (w.hand [d]) items := by
  obtain ⟨goes, legible⟩ := Delivery.passes_iff.mp passes
  rw [drain_of_goes version items running goes, d.onEvent, legible]
  rfl

/-- Events that pass bring a stream to what comes behind them. -/
theorem drain_append (running : w.stopped = false) (passes : ∀ d ∈ ds, d.passes = true) :
    drain version w (ds.map Delivery.item ++ items) =
      drain (ds.foldl Delivery.advance version) (w.hand ds) items := by
  induction ds generalizing version w with
  | nil => rfl
  | cons d ds ih =>
      rw [List.forall_mem_cons] at passes
      rw [List.map_cons, List.cons_append, drain_of_passes _ _ running passes.1]
      exact ih (w := w.hand [d]) _ running passes.2

end

/-! ## Stream after stream -/

/-- The events before that at which the watch is asked to stop. -/
def untilStop (ds : List Delivery) : List Delivery := ds.takeWhile (!·.stops)

/-- The events that are handed on: none from the stop on, and none behind an illegible one. -/
def handed : List Delivery → List Delivery
  | [] => []
  | d :: rest => if d.stops then [] else if d.isLegible then d :: handed rest else [d]

/-- What comes before each opening of a stream: the events of the streams before it, if all of them
pass. -/
def passages (streams : List (List Delivery)) : List (List Delivery) :=
  (streams.inits.map List.flatten).filter (·.all Delivery.passes)

section

variable {ds : List Delivery}

theorem untilStop_append (passes : ∀ d ∈ ds, d.passes = true) (rest : List Delivery) :
    untilStop (ds ++ rest) = ds ++ untilStop rest :=
  List.takeWhile_append_of_pos fun d hd => by simp [(Delivery.passes_iff.mp (passes d hd)).1]

theorem all_untilStop_append (passes : ∀ d ∈ ds, d.passes = true) (rest : List Delivery) :
    (untilStop (ds ++ rest)).all Delivery.isLegible = (untilStop rest).all Delivery.isLegible := by
  have legible : ds.all Delivery.isLegible = true :=
    List.all_eq_true.mpr fun d hd => (Delivery.passes_iff.mp (passes d hd)).2
  rw [untilStop_append passes, List.all_append, legible, Bool.true_and]

theorem handed_append (passes : ∀ d ∈ ds, d.passes = true) (rest : List Delivery) :
    handed (ds ++ rest) = ds ++ handed rest := by
  induction ds with
  | nil => rfl
  | cons d ds ih =>
      rw [List.forall_mem_cons, Delivery.passes_iff] at passes
      simp only [List.cons_append, handed, passes.1.1, passes.1.2, Bool.false_eq_true, if_false,
        if_true, ih passes.2]

theorem handed_of_legible (legible : ∀ d ∈ untilStop ds, d.isLegible = true) :
    handed ds = untilStop ds := by
  induction ds with
  | nil => rfl
  | cons d ds ih =>
      rw [untilStop, List.takeWhile_cons] at legible ⊢
      rw [handed]
      cases stops : d.stops with
      | true => rfl
      | false =>
          simp only [stops, Bool.not_false, if_true, List.forall_mem_cons] at legible
          simp [legible.1, ih legible.2, untilStop]

theorem handed_of_illegible {taken rest : List Delivery} {d : Delivery}
    (before : untilStop ds = taken ++ d :: rest) (legible : ∀ t ∈ taken, t.isLegible = true)
    (illegible : d.isLegible = false) : handed ds = taken ++ [d] := by
  have goes : ∀ t ∈ untilStop ds, t.stops = false := fun t ht => by
    simpa using List.mem_takeWhile_imp ht
  rw [before] at goes
  have passes : ∀ t ∈ taken, t.passes = true := fun t ht =>
    Delivery.passes_iff.mpr ⟨goes t (by simp [ht]), legible t ht⟩
  rw [← List.takeWhile_append_dropWhile (p := (!·.stops)) (l := ds), ← untilStop, before,
    List.append_assoc, handed_append passes, List.cons_append, handed]
  simp [goes d, illegible]

theorem passages_cons (stream : List Delivery) (rest : List (List Delivery)) :
    passages (stream :: rest) =
      [] :: if stream.all Delivery.passes then (passages rest).map (stream ++ ·) else [] := by
  have behind : ((rest.inits.map (stream :: ·)).map List.flatten).filter (·.all Delivery.passes) =
      if stream.all Delivery.passes then (passages rest).map (stream ++ ·) else [] := by
    rw [passages, List.map_map, List.filter_map, List.filter_map, List.map_map]
    cases all : stream.all Delivery.passes with
    | true =>
        simp [all, Function.comp_def]
    | false => simp [all, Function.comp_def]
  rw [passages, List.inits, List.map_cons, List.filter_cons_of_pos rfl, behind]
  rfl

end

/-- What streams come to: how they end, what they hand on, and the versions they are opened at, each
with the store at that moment. -/
structure Follows (version : Document) (w : Watch) (streams : List (List Delivery))
    (run : Result Unit) : Prop where
  outcome : run.outcome =
    if (untilStop streams.flatten).all Delivery.isLegible then .ok () else .error .noField
  feed : run.watch.feed = (handed streams.flatten).foldl Delivery.onto w.feed
  openings : run.watch.openings = w.openings ++
    (passages streams).map fun ds => (ds.foldl Delivery.advance version, (w.hand ds).store)

namespace Follows

variable {version : Document} {w : Watch} {taken stream after : List Delivery} {d : Delivery}
  {rest : List (List Delivery)} {run : Result Unit} {left : List (List StreamItem)}

theorem nil : Follows version w [] ⟨.ok (), (w.opening version).stop, left⟩ where
  outcome := rfl
  feed := rfl
  openings := openings_opening w version

/-- Behind a stream whose events pass, the next one is opened at the version reached. -/
theorem cons (passes : ∀ d ∈ stream, d.passes = true)
    (h : Follows (stream.foldl Delivery.advance version) ((w.opening version).hand stream) rest run) :
    Follows version w (stream :: rest) run where
  outcome := by
    rw [h.outcome, List.flatten_cons, all_untilStop_append passes]
  feed := by
    rw [h.feed, List.flatten_cons, handed_append passes, List.foldl_append]
    rfl
  openings := by
    have opened : ((w.opening version).hand stream).openings = w.openings ++ [(version, w.store)] :=
      openings_opening w version
    rw [h.openings, opened, passages_cons, if_pos (List.all_eq_true.mpr passes), List.append_assoc,
      List.map_cons, List.map_map]
    refine congrArg (w.openings ++ (version, w.store) :: ·) (List.map_congr_left fun ds _ => ?_)
    simp only [Function.comp_apply, List.foldl_append, hand]
    rfl

theorem passages_of_not_passes (h : d.passes = false) :
    passages ((taken ++ d :: after) :: rest) = [[]] := by
  rw [passages_cons, if_neg]
  simp [h]

theorem stopped (passes : ∀ d ∈ taken, d.passes = true) (stops : d.stops = true) :
    Follows version w ((taken ++ d :: after) :: rest)
      ⟨.ok (), ((w.opening version).hand taken).stop.step
        (.closed ((w.opening version).hand taken).store), left⟩ where
  outcome := by
    rw [List.flatten_cons, List.append_assoc, all_untilStop_append passes]
    simp [untilStop, stops]
  feed := by
    rw [List.flatten_cons, List.append_assoc, handed_append passes, List.cons_append, handed, stops]
    exact congrArg (List.foldl Delivery.onto w.feed) (List.append_nil taken).symm
  openings := by
    have closed := (Alike.stop ((w.opening version).hand taken)).trans (.closed _)
    rw [passages_of_not_passes (by simp [Delivery.passes, stops])]
    exact closed.openings.trans (openings_opening w version)

theorem tripped (passes : ∀ d ∈ taken, d.passes = true) (goes : d.stops = false)
    (illegible : d.isLegible = false) :
    Follows version w ((taken ++ d :: after) :: rest)
      ⟨.error .noField, ((w.opening version).hand taken).hand [d], left⟩ where
  outcome := by
    rw [List.flatten_cons, List.append_assoc, all_untilStop_append passes]
    simp [untilStop, goes, illegible]
  feed := by
    rw [List.flatten_cons, List.append_assoc, handed_append passes, List.cons_append, handed, goes,
      illegible]
    exact (List.foldl_append ..).symm
  openings := by
    rw [passages_of_not_passes (by simp [Delivery.passes, illegible])]
    exact openings_opening w version

end Follows

theorem follows {w : Watch} (running : w.stopped = false) (version : Document)
    (streams : List (List Delivery)) :
    Follows version w streams (follow version w (streams.map (List.map Delivery.item))) := by
  induction streams generalizing version w with
  | nil =>
      rw [List.map_nil, follow, if_neg (by simp [running])]
      exact .nil
  | cons stream rest ih =>
      have opening : (w.opening version).stopped = false := running
      rw [List.map_cons, Moment.follow_cons running, Moment.readOn]
      cases first : stream.find? (!·.passes) with
      | none =>
          have passes : ∀ d ∈ stream, d.passes = true := by simpa using first
          have drained := drain_append version [] opening passes
          rw [List.append_nil] at drained
          rw [drained]
          exact .cons passes (ih (w := (w.opening version).hand stream) running _)
      | some d =>
          obtain ⟨halts, taken, after, rfl, before⟩ := List.find?_eq_some_iff_append.mp first
          have passes : ∀ d ∈ taken, d.passes = true := by simpa using before
          rw [List.map_append, List.map_cons, drain_append version _ opening passes]
          cases stops : d.stops with
          | true =>
              rw [drain_of_stops _ _ stops]
              exact .stopped passes stops
          | false =>
              have illegible : d.isLegible = false := by simpa [Delivery.passes, stops] using halts
              have handing : ((w.opening version).hand taken).stopped = false := running
              rw [drain_of_illegible _ _ handing stops illegible]
              exact .tripped passes stops illegible

/-- Every event before the stop is handed on, in order, and the watching goes on; an object that cannot
be read leaves the store alone, and one without a version that could be followed the version reached.
Only an event about an object whose metadata are neither an object nor nothing ends the watching, once
it has been handed on. Streams are opened at the version that the events before have reached. -/
theorem malformed_events_stay_local {w : Watch} (running : w.stopped = false) (version : Document)
    (streams : List (List Delivery)) :
    let run := follow version w (streams.map (List.map Delivery.item))
    let before := untilStop streams.flatten
    ((∀ d ∈ before, d.isLegible = true) →
      run.outcome = .ok () ∧ run.watch.feed = before.foldl Delivery.onto w.feed) ∧
    (∀ taken d rest, before = taken ++ d :: rest → (∀ t ∈ taken, t.isLegible = true) →
      d.isLegible = false →
        run.outcome = .error .noField ∧
          run.watch.feed = (taken ++ [d]).foldl Delivery.onto w.feed) ∧
    run.watch.openings = w.openings ++ (passages streams).map (fun ds =>
      (ds.foldl Delivery.advance version, (w.hand ds).store)) ∧
    (∀ d : Delivery, Feed.profile? d.object = none → ∀ f, (d.onto f).store = f.store) ∧
    ∀ d : Delivery, d.Versionless → ∀ version, d.advance version = version := by
  intro run before
  have h : Follows version w streams run := follows running version streams
  refine ⟨fun legible => ?_, fun taken d rest split legible illegible => ?_, h.openings,
    fun d => Delivery.store_onto, fun d => Delivery.advance_of_versionless⟩
  · rw [h.outcome, h.feed, handed_of_legible legible, if_pos (List.all_eq_true.mpr legible)]
    exact ⟨rfl, rfl⟩
  · have trips : ¬ before.all Delivery.isLegible = true := by simp [split, illegible]
    rw [h.outcome, h.feed, handed_of_illegible split legible illegible, if_neg trips]
    exact ⟨rfl, rfl⟩

namespace Delivery.Sample

open Feed.Sample (document)

def watch : Watch := start ⟨.int 30, .int 300, .int 5⟩ .empty false

def delivery (kind : String) (h : kind ≠ "ERROR") (object : Document) : Delivery where
  event := .object [("type", .text kind), ("object", object)]
  kind := .text kind
  object := object
  hands := ⟨rfl, rfl, by simpa using h⟩
  stops := false

/-- An event about an object with these metadata. -/
def modified (metadata : Document) : Delivery :=
  delivery "MODIFIED" (by decide) (.object [("metadata", metadata)])

def added (name : String) : Delivery := delivery "ADDED" (by decide) (document name 1)

/-- Events about nothing, a text and objects that are no profiles, then one about a profile. -/
def odd : List Delivery :=
  [delivery "ADDED" (by decide) .null, delivery "DELETED" (by decide) (.text "web"),
    modified .null, modified (.object [("resourceVersion", .text "8")]), added "web"]

def headless : Delivery := modified (.text "none")

end Delivery.Sample

open Delivery.Sample in
theorem malformed_events_stay_local_sample :
    watch.stopped = false ∧
    (follow (.text "7") watch ([odd].map (List.map Delivery.item))).outcome = .ok () ∧
    (follow (.text "7") watch ([odd].map (List.map Delivery.item))).watch.feed.store.items =
      [⟨.text "web", .int 1, .null, .null, .null⟩] ∧
    (follow (.text "7") watch ([odd].map (List.map Delivery.item))).watch.openings =
      [(.text "7", .empty), (.text "8", .ofList [⟨.text "web", .int 1, .null, .null, .null⟩])] := by
  obtain ⟨stays, -, openings, -, -⟩ := malformed_events_stay_local (w := watch) rfl (.text "7") [odd]
  obtain ⟨outcome, feed⟩ := stays (by decide)
  refine ⟨rfl, outcome, ?_, openings.trans rfl⟩
  rw [feed]
  rfl

open Delivery.Sample in
/-- Metadata that are a text end the watching, and the event behind them is not handed on. -/
theorem headless_event_ends_stream :
    (follow (.text "7") watch ([[headless, added "web"]].map (List.map Delivery.item))).outcome =
        .error .noField ∧
      (follow (.text "7") watch
        ([[headless, added "web"]].map (List.map Delivery.item))).watch.feed.store.items = [] :=
  ⟨rfl, rfl⟩

end NodeRelief.Watch
