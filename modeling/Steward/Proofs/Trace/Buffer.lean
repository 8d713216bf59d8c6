import Mathlib.Data.List.DropRight
import Steward.Proofs.Trace.Following

/-! The trace in memory by the history of what a collector was told. Every recorded event counts,
and the buffer holds those since it was last taken, the newest of them as far as the cap goes. -/

set_option autoImplicit false

namespace Steward.Trace

/-- The newest events, as many as the cap allows; a cap of zero allows all. -/
def newest (cap : Nat) (events : List Event) : List Event :=
  if cap = 0 then events else events.rtake cap

section

variable (on : Bool) (notices : List Notice)

/-- The event that is recorded at a place. -/
def eventAt? (place : Nat) : Option Event :=
  match recorded? on notices place with
  | some (.acquired thread cookie) =>
      some (.acquired thread cookie ((heldAfter on notices place thread).length + 1))
  | some (.released thread cookie) => some (.released thread cookie)
  | some (.deadlock report) => some (.deadlock report.participants report.cookies)
  | _ => none

/-- The events that are recorded from a place on, among the first notices. -/
def eventsFrom (start count : Nat) : List Event :=
  (List.range' start (count - start)).filterMap (eventAt? on notices)

/-- The place behind the last time that the buffer was taken, among the first notices. -/
def lastTaken : Nat → Nat
  | 0 => 0
  | count + 1 => if notices[count]? = some .taken then count + 1 else lastTaken count

end

variable {on : Bool} {notices : List Notice} {count cap : Nat} {collector : Collector}

theorem lastTaken_le (notices : List Notice) (count : Nat) : lastTaken notices count ≤ count := by
  induction count with
  | zero => exact Nat.le_refl 0
  | succ count ih =>
    rw [lastTaken]
    split
    · exact Nat.le_refl _
    · exact Nat.le_succ_of_le ih

theorem eventsFrom_succ {start : Nat} (le : start ≤ count) :
    eventsFrom on notices start (count + 1) =
      eventsFrom on notices start count ++ (eventAt? on notices count).toList := by
  have place : start + 1 * (count - start) = count := by omega
  rw [eventsFrom, Nat.succ_sub le, List.range'_concat, List.filterMap_append, place, eventsFrom]
  cases found : eventAt? on notices count with
  | none => simp [found]
  | some event => simp [found]

theorem eventsFrom_self (on : Bool) (notices : List Notice) (count : Nat) :
    eventsFrom on notices count count = [] := by
  rw [eventsFrom, Nat.sub_self]
  rfl

theorem newest_nil (cap : Nat) : newest cap [] = [] := by
  unfold newest
  split
  · rfl
  · exact List.rtake_nil _

/-- Behind the newest events, one more drives out the oldest of them where the cap is reached. -/
theorem push_newest (cap : Nat) (events : List Event) (event : Event) :
    Sink.push cap (newest cap events) event = newest cap (events ++ [event]) := by
  cases cap with
  | zero => rfl
  | succ room =>
    rw [newest, if_neg (Nat.succ_ne_zero room), newest, if_neg (Nat.succ_ne_zero room),
      List.rtake_concat_succ, Sink.push]
    -- Either the cap was reached and the oldest is driven out, or all are still there.
    split
    · next full =>
      have enough : room + 1 ≤ events.length := by
        have short := full.2
        rw [List.rtake, List.length_drop] at short
        omega
      have behind : events.length - (room + 1) + 1 = events.length - room := by omega
      rw [List.rtake, List.tail_drop, behind, List.rtake]
    · next free =>
      have short : events.length ≤ room := by
        rw [List.rtake, List.length_drop] at free
        omega
      rw [List.rtake, List.rtake, Nat.sub_eq_zero_of_le short,
        Nat.sub_eq_zero_of_le (Nat.le_succ_of_le short)]

/-- The counter and the buffer are those that the first notices lead to. -/
structure Buffers (on : Bool) (cap : Nat) (notices : List Notice) (count : Nat)
    (collector : Collector) : Prop where
  recorded : collector.recorded = (eventsFrom on notices 0 count).length
  sink : collector.sink =
    .memory cap (newest cap (eventsFrom on notices (lastTaken notices count) count))

/-- A notice is recorded as its event, or leaves the counter and the buffer alone. -/
theorem Follows.records (follows : Follows on notices count collector) {notice : Notice}
    (next : notices[count]? = some notice) (untaken : notice ≠ .taken) {events : List Event}
    (sink : collector.sink = .memory cap events) :
    (collector.heed notice).recorded =
        collector.recorded + (eventAt? on notices count).toList.length ∧
      (collector.heed notice).sink =
        .memory cap ((eventAt? on notices count).elim events (Sink.push cap events)) := by
  have enabled := follows.enabled
  cases tracing : isOn on notices count with
  | false =>
    rw [tracing] at enabled
    have nothing : eventAt? on notices count = none := by simp [eventAt?, recorded?, tracing]
    rw [nothing]
    cases notice with
    | taken => exact absurd rfl untaken
    | acquired thread cookie => simp [Collector.heed, Collector.onAcquired, enabled, sink]
    | released thread cookie => simp [Collector.heed, Collector.onReleased, enabled, sink]
    | deadlock report => simp [Collector.heed, Collector.onDeadlock, enabled, sink]
    | switched enabled => simp [Collector.heed, Collector.setEnabled, sink]
    | flushed => simp [Collector.heed, Collector.flush, sink, Sink.flush]
  | true =>
    rw [tracing] at enabled
    have told : recorded? on notices count = some notice := by rw [recorded?, tracing, next]; rfl
    cases notice with
    | taken => exact absurd rfl untaken
    | acquired thread cookie =>
      simp [Collector.heed, Collector.onAcquired, Collector.record, Sink.record, enabled, sink,
        eventAt?, told, follows.held]
    | released thread cookie =>
      simp [Collector.heed, Collector.onReleased, Collector.record, Sink.record, enabled, sink,
        eventAt?, told]
    | deadlock report =>
      simp [Collector.heed, Collector.onDeadlock, Collector.record, Sink.record, enabled, sink,
        eventAt?, told]
    | switched enabled => simp [Collector.heed, Collector.setEnabled, sink, eventAt?, told]
    | flushed => simp [Collector.heed, Collector.flush, sink, Sink.flush, eventAt?, told]

namespace Buffers

theorem start (on : Bool) (cap : Nat) (notices : List Notice) :
    Buffers on cap notices 0 { enabled := on, maxEvents := cap, sink := .memory cap [] } := by
  refine ⟨rfl, ?_⟩
  rw [lastTaken, eventsFrom_self, newest_nil]

/-- Where nothing is recorded and nothing taken, all stays as it is. -/
theorem aside (buffers : Buffers on cap notices count collector)
    (nothing : eventAt? on notices count = none) (untaken : notices[count]? ≠ some .taken) :
    Buffers on cap notices (count + 1) collector := by
  constructor
  · rw [buffers.recorded, eventsFrom_succ (Nat.zero_le count), nothing]
    simp
  · rw [buffers.sink, lastTaken, if_neg untaken, eventsFrom_succ (lastTaken_le notices count),
      nothing]
    simp

theorem heed (buffers : Buffers on cap notices count collector)
    (follows : Follows on notices count collector) {notice : Notice}
    (next : notices[count]? = some notice) :
    Buffers on cap notices (count + 1) (collector.heed notice) := by
  -- A taking records nothing, and the events to come are counted from behind it.
  by_cases taken : notice = .taken
  · subst taken
    have nothing : eventAt? on notices count = none := by
      rw [eventAt?, recorded?, next]
      cases isOn on notices count <;> rfl
    refine ⟨?_, ?_⟩
    · rw [eventsFrom_succ (Nat.zero_le count), nothing, Option.toList_none, List.append_nil]
      exact buffers.recorded
    · rw [lastTaken, if_pos next, eventsFrom_self]
      simp [Collector.heed, Collector.take, buffers.sink, Sink.take, newest_nil]
  · obtain ⟨recorded, sink⟩ := follows.records next taken buffers.sink
    have untaken : notices[count]? ≠ some .taken := by
      rw [next]
      exact fun same => taken (Option.some.inj same)
    refine ⟨?_, ?_⟩
    · rw [recorded, buffers.recorded, eventsFrom_succ (Nat.zero_le count), List.length_append]
    · rw [sink, lastTaken, if_neg untaken, eventsFrom_succ (lastTaken_le notices count)]
      cases eventAt? on notices count with
      | none => simp
      | some event => rw [Option.elim_some, push_newest]; rfl

theorem run (on : Bool) (cap : Nat) (notices : List Notice) (count : Nat) :
    Buffers on cap notices count (Collector.heedAll
      { enabled := on, maxEvents := cap, sink := .memory cap [] } (notices.take count)) := by
  induction count with
  | zero => exact .start on cap notices
  | succ count ih =>
    cases next : notices[count]? with
    | some notice =>
      rw [Collector.heedAll_take_succ _ next]
      exact ih.heed (.run on cap _ notices count) next
    | none =>
      have short := List.getElem?_eq_none_iff.1 next
      rw [List.take_of_length_le short] at ih
      rw [List.take_of_length_le (Nat.le_succ_of_le short)]
      exact ih.aside (by simp [eventAt?, recorded?, next]) (by simp [next])

end Buffers

/-- Behind any notices, the counter is the number of events that were recorded, and whoever takes
the buffer gets the newest of those that were recorded since it was last taken, in their order, and
leaves it empty. -/
theorem buffer_keeps_newest (on : Bool) (cap : Nat) (notices : List Notice) (count : Nat) :
    let collector := Collector.heedAll
      { enabled := on, maxEvents := cap, sink := .memory cap [] } (notices.take count)
    collector.recorded = (eventsFrom on notices 0 count).length ∧
    collector.take =
      (some (newest cap (eventsFrom on notices (lastTaken notices count) count)),
        { collector with sink := .memory cap [] }) := by
  intro collector
  have buffers : Buffers on cap notices count collector := .run on cap notices count
  refine ⟨buffers.recorded, ?_⟩
  simp only [Collector.take, buffers.sink, Sink.take]

/-- With a cap of two, the first of three events behind a taking is driven out. The release while
tracing is off is no event. -/
example : (Collector.heedAll { enabled := true, maxEvents := 2, sink := .memory 2 [] }
    [.acquired ⟨1⟩ ⟨7⟩, .taken, .acquired ⟨1⟩ ⟨8⟩, .released ⟨2⟩ ⟨9⟩, .switched false,
      .released ⟨1⟩ ⟨8⟩, .switched true, .acquired ⟨1⟩ ⟨9⟩]).take.1 =
    some [.released ⟨2⟩ ⟨9⟩, .acquired ⟨1⟩ ⟨9⟩ 1] := by
  decide

end Steward.Trace
