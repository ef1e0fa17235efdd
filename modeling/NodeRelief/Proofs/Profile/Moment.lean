import NodeRelief.Profile.Watch
import Mathlib.Data.Prod.Lex
import Mathlib.Logic.Function.Iterate

/-!
# Moments of a watch

`Watch.loop` runs to its end in one go. Here it is cut into moments: where the watch stands, and what
is left of the script. From one moment to the next it takes in one answer, opens one stream or takes
in one item of a stream. `Moment.finish` runs the rest of the loop in one go, and it is the same from
one moment to the next; after finitely many moments nothing is left to run.
-/

namespace NodeRelief.Watch

/-- Where a watch stands in its loop. -/
inductive Stage where
  | listing
  | opening (version : Document)
  /-- In a stream, with what it still delivers. -/
  | reading (version : Document) (items : List StreamItem)
  | ended (outcome : Except Fault Unit)

/-- How far the end of the loop is, as long as nothing is listed and no stream is opened. -/
def Stage.rank : Stage → Nat
  | .ended _ => 0
  | .listing => 1
  | .opening _ => 2
  | .reading _ items => 3 + items.length

structure Moment where
  stage : Stage
  watch : Watch
  streams : List (List StreamItem)
  answers : List (Except Fault Document)

/-- What a round makes of the way its list and its streams ended. -/
def settled : Result Unit → Result Unit
  | ⟨.ok (), w, streams⟩ => afterWait w streams
  | ⟨.error f, w, streams⟩ =>
    if f.isInterruption then ⟨.error f, w, streams⟩
    else if isExpired f then ⟨.ok (), w, streams⟩
    else afterWait w streams

theorem round_eq_settled (answer : Except Fault Document) (streams : List (List StreamItem))
    (w : Watch) : round answer streams w = settled (listAndFollow answer streams w) := by
  rw [round]
  rcases listAndFollow answer streams w with ⟨_ | _, w, streams⟩ <;> rfl

namespace Moment

/-! ## From one moment to the next -/

/-- The moment after a round that ended so. -/
def after (answers : List (Except Fault Document)) : Result Unit → Moment
  | ⟨.ok (), w, streams⟩ => ⟨.listing, w, streams, answers⟩
  | ⟨.error f, w, streams⟩ => ⟨.ended (.error f), w, streams, answers⟩

/-- Without an answer left, the rest of the loop is one moment. -/
def list (w : Watch) (streams : List (List StreamItem)) : List (Except Fault Document) → Moment
  | [] =>
    let last := round (.ok emptyList) streams w.stop
    ⟨.ended last.outcome, last.watch, last.streams, []⟩
  | answer :: rest =>
    match relist answer w with
    | (.error f, w) => after rest (settled ⟨.error f, w, streams⟩)
    | (.ok version, w) => ⟨.opening version, { w with synced := true }, streams, rest⟩

def openStream (version : Document) (w : Watch) (answers : List (Except Fault Document)) :
    List (List StreamItem) → Moment
  | [] => after answers (settled ⟨.ok (), (w.opening version).stop, []⟩)
  | stream :: rest => ⟨.reading version stream, w.opening version, rest, answers⟩

def take (e : Document) (version : Document) (items : List StreamItem) (w : Watch)
    (streams : List (List StreamItem)) (answers : List (Except Fault Document)) : Moment :=
  match onEvent e version w with
  | (.error f, w) => after answers (settled ⟨.error f, w, streams⟩)
  | (.ok version, w) => ⟨.reading version items, w, streams, answers⟩

def next : Moment → Moment
  | ⟨.listing, w, streams, answers⟩ =>
    if w.stopped then ⟨.ended (.ok ()), w, streams, answers⟩ else list w streams answers
  | ⟨.opening version, w, streams, answers⟩ =>
    if w.stopped then after answers (settled ⟨.ok (), w, streams⟩)
    else openStream version w answers streams
  | ⟨.reading version [], w, streams, answers⟩ => ⟨.opening version, w, streams, answers⟩
  | ⟨.reading _ (.broken f :: _), w, streams, answers⟩ =>
    after answers (settled ⟨.error f, w, streams⟩)
  | ⟨.reading version (.event e stops :: items), w, streams, answers⟩ =>
    let w := if stops then w.stop else w
    if w.stopped then after answers (settled ⟨.ok (), w.step (.closed w.store), streams⟩)
    else take e version items w streams answers
  | ⟨.ended outcome, w, streams, answers⟩ => ⟨.ended outcome, w, streams, answers⟩

/-! ## The rest of the loop -/

/-- Goes on after a round that ended so. -/
def resume (answers : List (Except Fault Document)) : Result Unit → Result Unit
  | ⟨.ok (), w, streams⟩ => loop w streams answers
  | ⟨.error f, w, streams⟩ => ⟨.error f, w, streams⟩

/-- Reads the rest of a stream, then opens stream after stream. -/
def readOn (version : Document) (items : List StreamItem) (w : Watch)
    (streams : List (List StreamItem)) : Result Unit :=
  match drain version w items with
  | (.error f, w) => ⟨.error f, w, streams⟩
  | (.ok none, w) => ⟨.ok (), w, streams⟩
  | (.ok (some version), w) => follow version w streams

/-- How the loop ends from here. -/
def finish : Moment → Result Unit
  | ⟨.listing, w, streams, answers⟩ => loop w streams answers
  | ⟨.opening version, w, streams, answers⟩ => resume answers (settled (follow version w streams))
  | ⟨.reading version items, w, streams, answers⟩ =>
    resume answers (settled (readOn version items w streams))
  | ⟨.ended outcome, w, streams, _⟩ => ⟨outcome, w, streams⟩

theorem finish_after (answers : List (Except Fault Document)) (r : Result Unit) :
    (after answers r).finish = resume answers r := by
  rcases r with ⟨_ | _, w, streams⟩ <;> rfl

/-! ### The rounds of the loop, and what is read in them -/

theorem readOn_dropped {w : Watch} {stops : Bool}
    (hw : (if stops then w.stop else w).stopped = true) (version e : Document)
    (items : List StreamItem) (streams : List (List StreamItem)) :
    readOn version (.event e stops :: items) w streams =
      let w := if stops then w.stop else w
      ⟨.ok (), w.step (.closed w.store), streams⟩ := by
  simp only [readOn, drain, hw, if_true]

section

variable {w : Watch} (hw : w.stopped = false)
include hw

theorem loop_cons (streams : List (List StreamItem)) (answer : Except Fault Document)
    (rest : List (Except Fault Document)) :
    loop w streams (answer :: rest) = resume rest (settled (listAndFollow answer streams w)) := by
  rw [loop, hw, round_eq_settled]
  rcases settled (listAndFollow answer streams w) with ⟨_ | _, w, streams⟩ <;> rfl

theorem follow_cons (version : Document) (stream : List StreamItem)
    (rest : List (List StreamItem)) :
    follow version w (stream :: rest) = readOn version stream (w.opening version) rest := by
  rw [follow, hw, readOn]
  rcases drain version (w.opening version) stream with ⟨_ | _ | _, w⟩ <;> rfl

theorem readOn_event (version e : Document) (items : List StreamItem)
    (streams : List (List StreamItem)) :
    readOn version (.event e false :: items) w streams =
      match onEvent e version w with
      | (.error f, w) => ⟨.error f, w, streams⟩
      | (.ok version, w) => readOn version items w streams := by
  simp only [readOn, drain, Bool.false_eq_true, if_false, hw]
  rcases onEvent e version w with ⟨_ | _, w⟩ <;> rfl

/-! ### One moment at a time -/

theorem finish_list (streams : List (List StreamItem)) (answers : List (Except Fault Document)) :
    (list w streams answers).finish = loop w streams answers := by
  cases answers with
  | nil => rw [list, loop, hw]; rfl
  | cons answer rest =>
      rw [loop_cons hw, list, listAndFollow]
      rcases relist answer w with ⟨_ | version, w⟩
      · exact finish_after ..
      · rfl

theorem finish_openStream (version : Document) (streams : List (List StreamItem))
    (answers : List (Except Fault Document)) :
    (openStream version w answers streams).finish =
      resume answers (settled (follow version w streams)) := by
  cases streams with
  | nil => rw [openStream, finish_after, follow, hw]; rfl
  | cons stream rest => rw [follow_cons hw]; rfl

theorem finish_take (e version : Document) (items : List StreamItem)
    (streams : List (List StreamItem)) (answers : List (Except Fault Document)) :
    (take e version items w streams answers).finish =
      resume answers (settled (readOn version (.event e false :: items) w streams)) := by
  rw [take, readOn_event hw]
  rcases onEvent e version w with ⟨_ | _, w⟩
  · exact finish_after ..
  · rfl

end

/-- What the loop comes to is the same from one moment to the next. -/
theorem finish_next (m : Moment) : m.next.finish = m.finish := by
  rcases m with ⟨_ | version | ⟨version, _ | ⟨⟨e, stops⟩ | f, items⟩⟩ | outcome, w, streams, answers⟩
  · by_cases hw : w.stopped = true
    · cases answers <;> simp [next, hw, finish, loop]
    · rw [Bool.not_eq_true] at hw
      rw [next, hw]
      exact finish_list hw streams answers
  · by_cases hw : w.stopped = true
    · rw [next, if_pos hw, finish_after, finish]
      cases streams <;> rw [follow, if_pos hw]
    · rw [Bool.not_eq_true] at hw
      rw [next, hw]
      exact finish_openStream hw version streams answers
  · rfl
  · by_cases hw : (if stops then w.stop else w).stopped = true
    · simp only [next, hw, if_true, finish_after]
      rw [finish, readOn_dropped hw]
    · obtain rfl : stops = false := by cases stops <;> simp_all [stop]
      have hw : w.stopped = false := by simpa using hw
      simp only [next, Bool.false_eq_true, if_false, hw, finish]
      exact finish_take hw ..
  · rw [next, finish_after]
    rfl
  · rfl

/-! ### Every loop comes to an end -/

def Ended (m : Moment) : Prop := ∃ outcome, m.stage = .ended outcome

/-- What is left of the script, and of the place in it. -/
def left (m : Moment) : Nat ×ₗ Nat ×ₗ Nat :=
  toLex (m.answers.length, toLex (m.streams.length, m.stage.rank))

/-- After a round the loop stands lower than within it. -/
theorem rank_after (answers : List (Except Fault Document)) (r : Result Unit) :
    (after answers r).stage.rank ≤ 1 := by
  rcases r with ⟨_ | _, w, streams⟩ <;> simp [after, Stage.rank]

@[simp] theorem answers_after (answers : List (Except Fault Document)) (r : Result Unit) :
    (after answers r).answers = answers := by
  rcases r with ⟨_ | _, w, streams⟩ <;> rfl

@[simp] theorem streams_after (answers : List (Except Fault Document)) (r : Result Unit) :
    (after answers r).streams = r.streams := by
  rcases r with ⟨_ | _, w, streams⟩ <;> rfl

@[simp] theorem streams_settled (r : Result Unit) : (settled r).streams = r.streams := by
  rcases r with ⟨f | _, w, streams⟩
  · simp only [settled]
    split_ifs <;> rfl
  · rfl

theorem left_after_lt {answers : List (Except Fault Document)} {r : Result Unit} {m : Moment}
    (hm : 2 ≤ m.stage.rank) (ha : m.answers = answers) (hs : m.streams = r.streams) :
    (after answers (settled r)).left < m.left := by
  have hrank : (after answers (settled r)).stage.rank < m.stage.rank :=
    lt_of_le_of_lt (rank_after ..) hm
  simp [left, Prod.Lex.toLex_lt_toLex, ha, hs, hrank]

theorem left_openStream_lt (version : Document) (w : Watch)
    (streams : List (List StreamItem)) (answers : List (Except Fault Document)) :
    (openStream version w answers streams).left < left ⟨.opening version, w, streams, answers⟩ := by
  cases streams with
  | nil => exact left_after_lt (by simp [Stage.rank]) rfl rfl
  | cons stream rest => simp [openStream, left, Prod.Lex.toLex_lt_toLex]

theorem left_take_lt (e version : Document) (stops : Bool) (items : List StreamItem)
    (w w' : Watch) (streams : List (List StreamItem)) (answers : List (Except Fault Document)) :
    (take e version items w' streams answers).left <
      left ⟨.reading version (.event e stops :: items), w, streams, answers⟩ := by
  rw [take]
  split
  · exact left_after_lt (by simp [Stage.rank]; omega) rfl rfl
  · simp [left, Prod.Lex.toLex_lt_toLex, Stage.rank]

theorem ended_or_left_lt (m : Moment) : m.next.Ended ∨ m.next.left < m.left := by
  rcases m with ⟨_ | version | ⟨version, _ | ⟨⟨e, stops⟩ | f, items⟩⟩ | outcome, w, streams, answers⟩
  · rw [next]
    split_ifs
    · exact .inl ⟨_, rfl⟩
    · cases answers with
      | nil => exact .inl ⟨_, rfl⟩
      | cons answer rest =>
          right
          rw [list]
          split <;> simp [left, Prod.Lex.toLex_lt_toLex]
  · right
    rw [next]
    split_ifs
    · exact left_after_lt (by simp [Stage.rank]) rfl rfl
    · exact left_openStream_lt ..
  · right
    simp [next, left, Prod.Lex.toLex_lt_toLex, Stage.rank]
  · right
    simp only [next]
    split_ifs
    · exact left_after_lt (by simp [Stage.rank]; omega) rfl rfl
    · exact left_take_lt ..
    · exact left_after_lt (by simp [Stage.rank]; omega) rfl rfl
    · exact left_take_lt ..
  · right
    exact left_after_lt (by simp [Stage.rank]; omega) rfl rfl
  · exact .inl ⟨_, rfl⟩

theorem exists_ended (m : Moment) : ∃ n, (next^[n] m).Ended := by
  rcases ended_or_left_lt m with ended | hlt
  · exact ⟨1, ended⟩
  · obtain ⟨n, hn⟩ := exists_ended m.next
    exact ⟨n + 1, hn⟩
termination_by m.left
decreasing_by exact hlt

end Moment

end NodeRelief.Watch
