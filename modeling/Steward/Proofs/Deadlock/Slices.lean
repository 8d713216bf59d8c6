import Steward.Proofs.Deadlock.Schedule
import Steward.Proofs.Host.Deadlock
import Steward.Proofs.Sync.Alerts
import Steward.Proofs.Sync.Waking

/-! Watched waits of bounded time for a signal that is never set. Whatever threads do meanwhile and
whoever is told to own which lock, such a wait ends after a few slices that ran out, unless its
first slice is nothing: then every slice is, and the wait may never end. -/

set_option autoImplicit false

namespace Steward.Host

open Deadlock

/-- How a thread is told that its wait ended. -/
def Moment.outcome? (thread : ThreadId) (moment : Moment) : Option Sync.Outcome :=
  if moment.isTurnOf thread then (moment.host.turn thread).1.map Ending.outcome else none

/-- A thread that waits looks when its time has passed. -/
def Moment.runsOut (thread : ThreadId) (moment : Moment) : Bool :=
  moment.isTurnOf thread && (moment.host.waits.get? thread).any fun wait =>
    decide (wait.stage ≠ .asleep) && wait.isDue moment.host.clock

/-- The first slice of a wait of bounded time. -/
def DeadlockConfig.opening (config : DeadlockConfig) (total : Nat) : Backoff :=
  { slice := config.initialSlice, total := some total, longest := config.maxSlice }

/-- A thread that waits for nothing begins a watched wait of bounded time for a signal. -/
structure Watch (config : DeadlockConfig) (total : Nat) where
  host : Host
  thread : ThreadId
  serial : Nat
  cookie : Cookie
  options : Sync.WaitOptions
  orderly : host.Orderly
  configured : host.config.deadlock = config
  named : host.names (.signal serial) = true
  idle : host.isIdle thread = true
  installed : host.detector.hasOracle = true
  watched : options.unwatched = false

variable {start host middle after last : Host} {moments more early late : List Moment}
  {moment : Moment} {thread : ThreadId} {wait : Wait} {serial : Nat} {cookie : Cookie}
  {backoff : Backoff}

/-- What can end a wait for a signal that is not set. -/
inductive Vain : Sync.Outcome → Prop where
  | timedOut : Vain .timedOut
  | interrupted : Vain .interrupted
  | deadlock (report : Report) : Vain (.deadlock report)

/-- A thread waits until some time, after few slices that ran out; if it looks at that time, one
more has. Or it was told of an end of its wait, which was in vain. -/
inductive Fate (thread : ThreadId) (most : Nat) : List Moment → Host → Prop where
  | waits {moments : List Moment} {last : Host} {deadline : Nat}
      (untold : ∀ moment ∈ moments, moment.outcome? thread = none)
      (few : moments.countP (Moment.runsOut thread) < most)
      (due : Moment.runsOut thread ⟨last.begin (.elapse deadline), .turn thread⟩ = true) :
      Fate thread most moments last
  | ended {early late : List Moment} {moment : Moment} {last : Host} {outcome : Sync.Outcome}
      (untold : ∀ earlier ∈ early, earlier.outcome? thread = none)
      (few : early.countP (Moment.runsOut thread) < most)
      (told : moment.outcome? thread = some outcome) (vain : Vain outcome) :
      Fate thread most (early ++ moment :: late) last

namespace Watch

variable {config : DeadlockConfig} {total : Nat}

/-- The host on which the thread has begun to wait. -/
def begun (watch : Watch config total) : Host :=
  watch.host.begin
    (.monitorWait watch.thread watch.serial watch.cookie (some total) watch.options)

/-- A course from the beginning of the wait on, in which the signal is never set. -/
structure Unset (watch : Watch config total) (moments : List Moment) (last : Host) : Prop where
  course : Course watch.begun moments last
  unset : ∀ moment ∈ moments, moment.host.isThere (.signal watch.serial) = false

/-- As long as the signal is not set, the wait ends before so many slices of it ran out. -/
def EndsBefore (watch : Watch config total) (most : Nat) : Prop :=
  ∀ moments last, watch.Unset moments last → Fate watch.thread most moments last

/-- However many slices ran out, the wait may go on. -/
def Endless (watch : Watch config total) : Prop :=
  ∀ slices, ∃ moments last, watch.Unset moments last ∧
    moments.countP (Moment.runsOut watch.thread) = slices ∧
    ∀ moment ∈ moments, moment.outcome? watch.thread = none

end Watch

/-! ### Slices -/

/-- A wait in one of its slices. -/
structure Wait.InSlice (wait : Wait) (serial : Nat) (cookie : Cookie) (backoff : Backoff) :
    Prop where
  target : wait.target = .signal serial
  purpose : wait.purpose = .watched cookie backoff
  bounded : wait.deadline.isSome = true

theorem Wait.InSlice.wake (inside : wait.InSlice serial cookie backoff) :
    wait.wake.InSlice serial cookie backoff :=
  ⟨(Wait.wake_target wait).trans inside.target, (purpose_wake wait).trans inside.purpose,
    (Wait.wake_deadline wait).symm ▸ inside.bounded⟩

/-- The slice that follows on a wait. -/
def Wait.followedBy (wait : Wait) (cookie : Cookie) (next : Backoff) (clock : Nat) : Wait :=
  ⟨wait.target, some (clock + next.current), wait.options, .watched cookie next, .starting⟩

/-- What a turn in a slice comes to while the signal is not set. -/
inductive SliceTurn (host : Host) (thread : ThreadId) (wait : Wait) (cookie : Cookie)
    (backoff : Backoff) : Option Ending → Option Wait → Prop where
  | rested (asleep : wait.stage = .asleep) :
      SliceTurn host thread wait cookie backoff none (some wait)
  | dozed (early : wait.isDue host.clock = false) :
      SliceTurn host thread wait cookie backoff none (some { wait with stage := .asleep })
  | interrupted {after : Option Wait} (alertable : wait.options.alertable = true) :
      SliceTurn host thread wait cookie backoff (some ⟨.interrupted, none⟩) after
  | closed {after : Option Wait} {report : Report}
      (found : ((host.away thread).tryEnter thread thread cookie).1 = some report) :
      SliceTurn host thread wait cookie backoff (some ⟨.deadlock report, none⟩) after
  | spent {after : Option Wait} (nothing : backoff.spend.next? = none) :
      SliceTurn host thread wait cookie backoff (some ⟨.timedOut, none⟩) after
  | resumed {next : Backoff} {clock : Nat} (stirs : wait.stage ≠ .asleep)
      (due : wait.isDue host.clock = true) (onward : backoff.spend.next? = some next) :
      SliceTurn host thread wait cookie backoff none (some (wait.followedBy cookie next clock))

theorem isTurnOf_iff : moment.isTurnOf thread = true ↔ moment.call = .turn thread := by
  unfold Moment.isTurnOf
  split
  · next other turns => simp [turns]
  · next apart => simpa using apart thread

theorem outcome?_turn (host : Host) (thread : ThreadId) :
    Moment.outcome? thread ⟨host, .turn thread⟩ = (host.turn thread).1.map Ending.outcome :=
  if_pos (decide_eq_true rfl)

theorem take?_of_unset (unset : host.isThere (.signal serial) = false) :
    (host.away thread).take? thread (.signal serial) = none := by
  have same : (host.away thread).signals = host.signals := rfl
  cases found : host.signals.get? serial with
  | none => simp [take?, same, found]
  | some signal =>
    have closed : signal.isSet = false := by simpa [isThere, found] using unset
    simp [take?, same, found, Sync.Signal.take?, closed]

theorem sliceTurn_of_due (stirs : wait.stage ≠ .asleep) (due : wait.isDue host.clock = true) :
    SliceTurn host thread wait cookie backoff
      ((host.away thread).sliceOver thread wait cookie backoff).1
      (((host.away thread).sliceOver thread wait cookie backoff).2.waits.get? thread) := by
  unfold sliceOver
  generalize looks : (host.away thread).tryEnter thread thread cookie = looked
  obtain ⟨report?, looked⟩ := looked
  cases report? with
  | some report => exact .closed (congrArg Prod.fst looks)
  | none =>
    simp only
    generalize onward : backoff.spend.next? = next?
    cases next? with
    | none => exact .spent onward
    | some next =>
      simp only [startWait, Assoc.get?_insert_self]
      exact .resumed stirs due onward

theorem turn_of_due (found : host.waits.get? thread = some wait)
    (inside : wait.InSlice serial cookie backoff)
    (unset : host.isThere (.signal serial) = false) (stirs : wait.stage ≠ .asleep)
    (calm : (wait.options.alertable && host.isAlerted thread) = false)
    (due : wait.isDue host.clock = true) :
    host.turn thread = (host.away thread).sliceOver thread wait cookie backoff := by
  have missing : (host.away thread).take? thread wait.target = none :=
    inside.target ▸ take?_of_unset unset
  have alerted : (host.away thread).isAlerted thread = host.isAlerted thread := rfl
  have clock : (host.away thread).clock = host.clock := rfl
  rw [turn_eq found stirs]
  simp only [attempt, look, missing, alerted, clock, due, Bool.and_assoc, calm, Bool.and_false,
    Bool.false_eq_true, if_false, if_true, conclude, inside.purpose]
  rfl

theorem sliceTurn (found : host.waits.get? thread = some wait)
    (inside : wait.InSlice serial cookie backoff)
    (unset : host.isThere (.signal serial) = false) :
    SliceTurn host thread wait cookie backoff (host.turn thread).1
      ((host.turn thread).2.waits.get? thread) := by
  by_cases asleep : wait.stage = .asleep
  · rw [turn_of_asleep found asleep, found]
    exact .rested asleep
  · have missing : (host.away thread).take? thread wait.target = none :=
      inside.target ▸ take?_of_unset unset
    have alerted : (host.away thread).isAlerted thread = host.isAlerted thread := rfl
    cases calm : wait.options.alertable && host.isAlerted thread with
    | true =>
      -- The alert ends the wait before it looks, or once it found nothing.
      have stopped : ∃ left, (host.away thread).attempt thread wait =
          (some ⟨.interrupted, none⟩, left) := by
        simp only [attempt, look, missing, alerted, Bool.and_assoc, calm, if_true]
        split <;> exact ⟨_, rfl⟩
      obtain ⟨left, stopped⟩ := stopped
      rw [turn_eq found asleep, stopped]
      simp only [conclude, inside.purpose]
      exact .interrupted (Bool.and_eq_true_iff.1 calm).1
    | false =>
      cases due : wait.isDue host.clock with
      | true =>
        rw [turn_of_due found inside unset asleep calm due]
        exact sliceTurn_of_due asleep due
      | false =>
        have clock : (host.away thread).clock = host.clock := rfl
        rw [turn_eq found asleep]
        simp only [attempt, look, missing, alerted, clock, due, Bool.and_assoc, calm,
          Bool.and_false, Bool.false_eq_true, if_false, Assoc.get?_insert_self]
        exact .dozed due

/-- Whatever is next, unless it is a turn of its thread, a wait stays as it is or is woken. -/
theorem Next.spares (step : Next host more after) (orderly : host.Orderly)
    (found : host.waits.get? thread = some wait) :
    (more = [⟨host, .turn thread⟩] ∧ after = host.begin (.turn thread)) ∨
      (∀ moment ∈ more, moment.isTurnOf thread = false) ∧
        (after.waits.get? thread = some wait ∨ after.waits.get? thread = some wait.wake) := by
  cases step with
  | began call accepted =>
    by_cases turns : call = .turn thread
    · subst turns
      exact .inl ⟨rfl, rfl⟩
    · refine .inr ⟨fun moment there => ?_, ?_⟩
      · obtain rfl := List.mem_singleton.1 there
        exact Bool.eq_false_iff.2 fun its => turns (isTurnOf_iff.1 its)
      · -- A call of anybody else wakes the thread at most.
        have through := fares orderly call thread
        generalize (host.begin call).waits.get? thread = after at through ⊢
        cases through with
        | kept => exact .inl found
        | woken => exact .inr (by rw [found]; rfl)
        | began absent => cases found.symm.trans absent
        | dozed turn | ended turn | resumed turn => exact absurd turn turns
  | roused woken =>
    refine .inr ⟨by simp, ?_⟩
    rw [get?_rouse, found, Option.map_some]
    split
    · exact .inr rfl
    · exact .inl rfl
  | respun => exact .inr ⟨by simp, .inl found⟩

/-- Once the time of a wait has passed, its thread is awake and looks. -/
theorem runsOut_of_bounded (found : host.waits.get? thread = some wait)
    (bounded : wait.deadline.isSome = true) :
    ∃ deadline, Moment.runsOut thread ⟨host.begin (.elapse deadline), .turn thread⟩ = true := by
  obtain ⟨deadline, bound⟩ := Option.isSome_iff_exists.1 bounded
  refine ⟨deadline, ?_⟩
  have passed : wait.isDue (max host.clock deadline) = true := by
    simp [Wait.isDue, bound]
  have woken : (host.begin (.elapse deadline)).waits.get? thread = some wait.wake := by
    have waits : (host.begin (.elapse deadline)).waits = (host.elapse deadline).waits := rfl
    simp [waits, elapse, Assoc.get?_mapValues, found, passed]
  have clock : (host.begin (.elapse deadline)).clock = max host.clock deadline := rfl
  have still : wait.wake.isDue (max host.clock deadline) = true := by
    rwa [Wait.isDue, Wait.wake_deadline]
  simp [Moment.runsOut, Moment.isTurnOf, woken, clock, still, Wait.wake_stirs]

/-- A thread was not told of an end yet, and its wait is in the slice that follows those that ran
out. -/
structure Slicing (thread : ThreadId) (serial : Nat) (cookie : Cookie) (first : Backoff)
    (moments : List Moment) (host : Host) : Prop where
  untold : ∀ moment ∈ moments, moment.outcome? thread = none
  slice : ∃ wait backoff, host.waits.get? thread = some wait ∧
    wait.InSlice serial cookie backoff ∧
    first.afterSlices (moments.countP (Moment.runsOut thread)) = some backoff

namespace Slicing

variable {first : Backoff}

/-- A moment that is not a turn of the thread leaves it in its slice. -/
theorem pass (slicing : Slicing thread serial cookie first moments host)
    (quiet : ∀ moment ∈ more, moment.isTurnOf thread = false)
    (stays : ∀ wait, host.waits.get? thread = some wait →
      after.waits.get? thread = some wait ∨ after.waits.get? thread = some wait.wake) :
    Slicing thread serial cookie first (moments ++ more) after := by
  obtain ⟨untold, wait, backoff, found, inside, reached⟩ := slicing
  have same : more.countP (Moment.runsOut thread) = 0 := by
    rw [List.countP_eq_zero]
    intro moment there
    simp [Moment.runsOut, quiet moment there]
  refine ⟨fun moment there => ?_, ?_⟩
  · rcases List.mem_append.1 there with before | now
    · exact untold moment before
    · simp [Moment.outcome?, quiet moment now]
  · rw [List.countP_append, same]
    rcases stays wait found with kept | woken
    · exact ⟨wait, backoff, kept, inside, reached⟩
    · exact ⟨wait.wake, backoff, woken, inside.wake, reached⟩

/-- A turn of the thread leaves it in its slice, brings the next one when the slice ran out, or is
the end of the wait. -/
theorem turn (slicing : Slicing thread serial cookie first moments host)
    (unset : host.isThere (.signal serial) = false) :
    Slicing thread serial cookie first (moments ++ [⟨host, .turn thread⟩])
        (host.begin (.turn thread)) ∨
      ∃ outcome, Moment.outcome? thread ⟨host, .turn thread⟩ = some outcome ∧ Vain outcome := by
  obtain ⟨untold, wait, backoff, found, inside, reached⟩ := slicing
  have told := outcome?_turn host thread
  have ran : Moment.runsOut thread ⟨host, .turn thread⟩ =
      (decide (wait.stage ≠ .asleep) && wait.isDue host.clock) := by
    simp [Moment.runsOut, Moment.isTurnOf, found]
  -- Where the thread was told of nothing, what is left to show is the slice it is in then.
  have onward : (host.turn thread).1 = none → ∀ next later,
      (host.turn thread).2.waits.get? thread = some next → next.InSlice serial cookie later →
      first.afterSlices (moments.countP (Moment.runsOut thread) +
        if (decide (wait.stage ≠ .asleep) && wait.isDue host.clock) = true then 1 else 0) =
          some later →
      Slicing thread serial cookie first (moments ++ [⟨host, .turn thread⟩])
        (host.begin (.turn thread)) := by
    intro silent next later there within onward
    refine ⟨fun moment inside => ?_, next, later, (get?_begin_turn ..).trans there, within, ?_⟩
    · rcases List.mem_append.1 inside with before | now
      · exact untold moment before
      · rw [List.mem_singleton.1 now, told, silent]
        rfl
    · rw [List.countP_append, List.countP_singleton, ran]
      exact onward
  rw [told]
  have turned := sliceTurn found inside unset
  generalize (host.turn thread).1 = ending? at turned onward ⊢
  generalize (host.turn thread).2.waits.get? thread = after? at turned onward
  cases turned with
  | rested asleep =>
    exact .inl (onward rfl wait backoff rfl inside (by simpa [asleep] using reached))
  | dozed early =>
    exact .inl (onward rfl _ backoff rfl ⟨inside.target, inside.purpose, inside.bounded⟩
      (by simpa [early] using reached))
  | interrupted => exact .inr ⟨_, rfl, .interrupted⟩
  | closed => exact .inr ⟨_, rfl, .deadlock _⟩
  | spent => exact .inr ⟨_, rfl, .timedOut⟩
  | @resumed next clock stirs due follows =>
    refine .inl (onward rfl _ next rfl ⟨inside.target, rfl, rfl⟩ ?_)
    simp [stirs, due, Backoff.afterSlices, reached, follows]

theorem next (slicing : Slicing thread serial cookie first moments host) (orderly : host.Orderly)
    (step : Next host more after)
    (unset : ∀ moment ∈ more, moment.host.isThere (.signal serial) = false) :
    Slicing thread serial cookie first (moments ++ more) after ∨
      ∃ moment outcome, more = [moment] ∧ moment.outcome? thread = some outcome ∧ Vain outcome := by
  obtain ⟨wait, _, found, _⟩ := slicing.slice
  rcases step.spares orderly found with ⟨rfl, rfl⟩ | ⟨quiet, stays⟩
  · rcases slicing.turn (unset _ (List.mem_singleton_self _)) with onward | ⟨outcome, told, vain⟩
    · exact .inl onward
    · exact .inr ⟨_, outcome, rfl, told, vain⟩
  · refine .inl (slicing.pass quiet fun other there => ?_)
    cases found.symm.trans there
    exact stays

end Slicing

/-- The wait of a thread goes slice by slice, until the thread is told of an end, in vain. -/
inductive Sliced (thread : ThreadId) (serial : Nat) (cookie : Cookie) (first : Backoff) :
    List Moment → Host → Prop where
  | going {moments : List Moment} {host : Host}
      (slicing : Slicing thread serial cookie first moments host) :
      Sliced thread serial cookie first moments host
  | ended {early late : List Moment} {moment : Moment} {host : Host} {outcome : Sync.Outcome}
      (slicing : Slicing thread serial cookie first early moment.host)
      (told : moment.outcome? thread = some outcome) (vain : Vain outcome) :
      Sliced thread serial cookie first (early ++ moment :: late) host

theorem Sliced.next {first : Backoff} (sliced : Sliced thread serial cookie first moments host)
    (orderly : host.Orderly) (step : Next host more after)
    (unset : ∀ moment ∈ more, moment.host.isThere (.signal serial) = false) :
    Sliced thread serial cookie first (moments ++ more) after := by
  cases sliced with
  | going slicing =>
    rcases slicing.next orderly step unset with onward | ⟨moment, outcome, rfl, told, vain⟩
    · exact .going onward
    · cases step with
      | began => exact .ended slicing told vain
  | ended slicing told vain =>
    rw [List.append_assoc]
    exact .ended slicing told vain

namespace Watch

variable {config : DeadlockConfig} {total : Nat} (watch : Watch config total)

theorem get?_begun : watch.begun.waits.get? watch.thread = some ⟨.signal watch.serial,
    some (watch.host.clock + (config.opening total).current), watch.options,
    .watched watch.cookie (config.opening total), .starting⟩ := by
  have plain : (watch.options.unwatched || !watch.host.detector.hasOracle) = false := by
    simp [watch.watched, watch.installed]
  have heeds : watch.host.heed (.monitorWait watch.thread watch.serial watch.cookie (some total)
      watch.options) = watch.host.whenIdle watch.thread
        (watch.host.startWait watch.thread (.signal watch.serial)
          (some (config.opening total).current) watch.options
          (.watched watch.cookie (config.opening total))) := by
    simp only [heed, startMonitorWait, plain, watch.configured]
    rfl
  rw [begun, (Opens.of_heed rfl rfl heeds (.watched _ _ _ _ _ _)).idle watch.idle]
  exact Assoc.get?_insert_self ..

theorem orderly_begun : watch.begun.Orderly :=
  watch.orderly.begun (begun_begin watch.orderly watch.named)

theorem slicing_begun : Slicing watch.thread watch.serial watch.cookie (config.opening total) []
    watch.begun :=
  ⟨by simp, _, config.opening total, watch.get?_begun, ⟨rfl, rfl, rfl⟩, rfl⟩

variable {watch}

theorem Unset.sliced (unset : watch.Unset moments last) :
    Sliced watch.thread watch.serial watch.cookie (config.opening total) moments last :=
  unset.course.induction watch.orderly_begun unset.unset (.going watch.slicing_begun)
    fun _ _ _ _ step orderly quiet before => before.next orderly step quiet

theorem endsBefore (watch : Watch config total) (grows : 0 < config.initialSlice ∨ total ≤ 1) :
    watch.EndsBefore (Nat.log2 total + 2) := by
  have few : ∀ {moments host},
      Slicing watch.thread watch.serial watch.cookie (config.opening total) moments host →
      moments.countP (Moment.runsOut watch.thread) < Nat.log2 total + 2 := by
    rintro moments host ⟨_, _, _, _, _, reached⟩
    exact Nat.lt_succ_of_le (Backoff.few_of_afterSlices grows reached)
  intro moments last unset
  cases unset.sliced with
  | going slicing =>
    obtain ⟨_, _, found, inside, _⟩ := slicing.slice
    obtain ⟨deadline, due⟩ := runsOut_of_bounded found inside.bounded
    exact .waits slicing.untold (few slicing) due
  | ended slicing told vain => exact .ended slicing.untold (few slicing) told vain

end Watch

/-! ### Slices of nothing -/

/-- A thread waits in a slice of nothing, and nothing ends its wait: no alert, no lock that anybody
owns, and not the signal. -/
structure Spins (thread : ThreadId) (serial : Nat) (cookie : Cookie) (total longest : Nat)
    (host : Host) : Prop where
  fixed : host.FixedOwners fun _ => none
  unset : host.isThere (.signal serial) = false
  slice : ∃ wait, host.waits.get? thread = some wait ∧ wait.options.alertable = false ∧
    wait.InSlice serial cookie ⟨0, 0, some total, longest⟩

namespace Spins

variable {total longest : Nat}

theorem elapse (spins : Spins thread serial cookie total longest host) (clock : Nat) :
    Spins thread serial cookie total longest (host.begin (.elapse clock)) := by
  obtain ⟨fixed, unset, wait, found, calm, inside⟩ := spins
  refine ⟨⟨fixed.installed, fixed.unprepared, fixed.table⟩, unset, ?_⟩
  have waits : (host.begin (.elapse clock)).waits = (host.elapse clock).waits := rfl
  rw [waits, Host.elapse, Assoc.get?_mapValues, found, Option.map_some]
  split
  · exact ⟨wait.wake, rfl, by rwa [Wait.wake_options], inside.wake⟩
  · exact ⟨wait, rfl, calm, inside⟩

/-- A slice of nothing that ran out is followed by one like it. -/
theorem turn (spins : Spins thread serial cookie total longest host) (long : 1 < total)
    (due : Moment.runsOut thread ⟨host, .turn thread⟩ = true) :
    Moment.outcome? thread ⟨host, .turn thread⟩ = none ∧
      Spins thread serial cookie total longest (host.begin (.turn thread)) := by
  obtain ⟨fixed, unset, wait, found, calm, inside⟩ := spins
  simp only [Moment.runsOut, Moment.isTurnOf, found, Option.any_some, Bool.and_eq_true,
    decide_eq_true_eq, true_and] at due
  have away : (host.away thread).FixedOwners fun _ => none :=
    ⟨fixed.installed, fixed.unprepared, fixed.table⟩
  have turns : host.turn thread = (none, startWait
      { host.away thread with
        detector := host.detector.register thread cookie
        owners := { host.owners with asked := cookie :: host.owners.asked } }
      thread wait.target (some (Backoff.current ⟨0, 0, some total, longest⟩)) wait.options
      (.watched cookie ⟨0, 0, some total, longest⟩)) := by
    rw [turn_of_due found inside unset due.1 (by rw [calm]; rfl) due.2]
    simp only [sliceOver, away.tryEnter_of_unowned, Backoff.next?_of_nothing long]
    rfl
  have told := outcome?_turn host thread
  have same : host.begin (.turn thread) = { (host.turn thread).2 with
      waits := unwoken host.waits (host.turn thread).2.waits } := rfl
  refine ⟨by rw [told, turns]; rfl, ?_, ?_, ?_⟩
  · rw [same, turns]
    exact ⟨fixed.installed, fixed.unprepared, fixed.table⟩
  · rw [same, turns]
    exact unset
  · rw [get?_begin_turn, turns]
    exact ⟨_, Assoc.get?_insert_self .., calm, inside.target, rfl, rfl⟩

/-- Time passes until the slice runs out, and the thread takes its turn. -/
theorem round (spins : Spins thread serial cookie total longest host) (long : 1 < total) :
    ∃ deadline, let later := host.begin (.elapse deadline)
      Moment.runsOut thread ⟨later, .turn thread⟩ = true ∧
        Moment.outcome? thread ⟨later, .turn thread⟩ = none ∧
        later.isThere (.signal serial) = false ∧
        Spins thread serial cookie total longest (later.begin (.turn thread)) := by
  obtain ⟨wait, found, _, inside⟩ := spins.slice
  obtain ⟨deadline, due⟩ := runsOut_of_bounded found inside.bounded
  have later := spins.elapse deadline
  obtain ⟨silent, onward⟩ := later.turn long due
  exact ⟨deadline, due, silent, later.unset, onward⟩

end Spins

namespace Watch

variable {config : DeadlockConfig} {total : Nat} {watch : Watch config total}

/-- Any number of slices of nothing can follow each other. -/
theorem rounds (long : 1 < total)
    (spins : Spins watch.thread watch.serial watch.cookie total config.maxSlice watch.begun)
    (slices : Nat) :
    ∃ moments last, watch.Unset moments last ∧
      Spins watch.thread watch.serial watch.cookie total config.maxSlice last ∧
      moments.countP (Moment.runsOut watch.thread) = slices ∧
      ∀ moment ∈ moments, moment.outcome? watch.thread = none := by
  induction slices with
  | zero => exact ⟨[], _, ⟨.start, by simp⟩, spins, rfl, by simp⟩
  | succ slices ih =>
    obtain ⟨moments, last, ⟨course, quiet⟩, spins, count, untold⟩ := ih
    obtain ⟨deadline, ran, silent, closed, onward⟩ := spins.round long
    -- Two moments for each slice: its time passes, and the thread looks.
    have longer := (course.call (.elapse deadline) rfl).call (.turn watch.thread) rfl
    refine ⟨_, _, ⟨longer, fun moment inside => ?_⟩, onward, ?_, fun moment inside => ?_⟩
    · simp only [List.mem_append, List.mem_singleton] at inside
      rcases inside with (before | rfl) | rfl
      · exact quiet moment before
      · exact spins.unset
      · exact closed
    · have rests : Moment.runsOut watch.thread ⟨last, .elapse deadline⟩ = false := rfl
      simp [ran, rests, count]
    · simp only [List.mem_append, List.mem_singleton] at inside
      rcases inside with (before | rfl) | rfl
      · exact untold moment before
      · rfl
      · exact silent

/-- A wait in slices of nothing has no end, if nobody owns any lock. -/
theorem endless (nothing : config.initialSlice = 0) (long : 1 < total)
    (fixed : watch.begun.FixedOwners fun _ => none)
    (unset : watch.begun.isThere (.signal watch.serial) = false)
    (calm : watch.options.alertable = false) : watch.Endless := by
  have first : config.opening total = ⟨0, 0, some total, config.maxSlice⟩ := by
    rw [DeadlockConfig.opening, nothing]
  have spins : Spins watch.thread watch.serial watch.cookie total config.maxSlice watch.begun :=
    ⟨fixed, unset, _, watch.get?_begun, calm, rfl, by rw [first], rfl⟩
  intro slices
  obtain ⟨moments, last, unset, _, count, untold⟩ := rounds long spins slices
  exact ⟨moments, last, unset, count, untold⟩

end Watch

/-- A wait that has no end ends before no number of slices. -/
theorem Watch.Endless.not_endsBefore {config : DeadlockConfig} {total : Nat}
    {watch : Watch config total} (endless : watch.Endless) (most : Nat) :
    ¬ watch.EndsBefore most := by
  intro ends
  obtain ⟨moments, last, unset, count, untold⟩ := endless most
  cases ends moments last unset with
  | waits _ few => exact absurd few (by omega)
  | ended _ _ told =>
    have silent := untold _ (List.mem_append_right _ (List.mem_cons_self ..))
    rw [told] at silent
    cases silent

/-- A thread, a signal, and somebody who knows that nobody owns any lock. -/
def oneThread : List Call := [.spawn, .installOracle, .addSignal { lasting := false }]

theorem orderly_oneThread {config : Config} {opened : String → Except Error Trace.Sink}
    (made : create config opened = .ok start) : (start.heedAll oneThread).Orderly :=
  (Course.start.heedAll (.create made) (show acceptsAll _ oneThread = true from rfl)).orderly
    (.create made)

/-- A watched wait on a new host on which nobody owns any lock. -/
theorem exists_watch (config : DeadlockConfig) (total : Nat) :
    ∃ start, create { deadlock := config } (fun _ => .ok (.memory 0 [])) = .ok start ∧
      ∃ watch : Watch config total, watch.host = start.heedAll oneThread ∧
        watch.begun.FixedOwners (fun _ => none) ∧
        watch.begun.isThere (.signal watch.serial) = false ∧ watch.options = {} := by
  have orderly := @orderly_oneThread _ { deadlock := config } (fun _ => .ok (.memory 0 [])) rfl
  exact ⟨_, rfl, ⟨_, ⟨1⟩, 0, ⟨1⟩, {}, orderly, rfl, rfl, rfl, rfl, rfl⟩, rfl,
    ⟨rfl, fun _ => rfl, fun _ => rfl⟩, rfl, rfl⟩

/-- A watched wait of bounded time for a signal that is never set ends after a few slices, whatever
the locks and the longest slice are, exactly if its first slice is something or its time is next to
nothing. Otherwise it may have no end. -/
theorem endsBefore_iff (config : DeadlockConfig) (total : Nat) :
    ((∀ watch : Watch config total, watch.EndsBefore (Nat.log2 total + 2)) ↔
        0 < config.initialSlice ∨ total ≤ 1) ∧
      ((∃ watch : Watch config total, watch.Endless) ↔ config.initialSlice = 0 ∧ 1 < total) := by
  have endless : config.initialSlice = 0 ∧ 1 < total → ∃ watch : Watch config total,
      watch.Endless := by
    rintro ⟨nothing, long⟩
    obtain ⟨_, _, watch, _, fixed, unset, calm⟩ := exists_watch config total
    exact ⟨watch, Watch.endless nothing long fixed unset (by rw [calm])⟩
  have split : ¬ (0 < config.initialSlice ∨ total ≤ 1) → config.initialSlice = 0 ∧ 1 < total := by
    omega
  refine ⟨⟨fun ends => ?_, fun grows watch => watch.endsBefore grows⟩, fun ⟨watch, goes⟩ => ?_,
    endless⟩
  · -- One wait without end refutes every bound.
    refine Decidable.not_not.1 fun stays => ?_
    obtain ⟨watch, goes⟩ := endless (split stays)
    exact goes.not_endsBefore _ (ends watch)
  · exact split fun grows => goes.not_endsBefore _ (watch.endsBefore grows)

/-- With the first slice that a host has where nothing else is asked for, a wait of a millisecond
ends before twenty-one slices. -/
theorem endsBefore_oneThread :
    ∃ start, create {} (fun _ => .ok (.memory 0 [])) = .ok start ∧
      ∃ watch : Watch {} 1000000, watch.host = start.heedAll oneThread ∧
        watch.EndsBefore 21 := by
  obtain ⟨start, created, watch, host, _⟩ := exists_watch {} 1000000
  have few : Nat.log2 1000000 + 2 = 21 := by decide +kernel
  exact ⟨start, created, watch, host,
    few ▸ (endsBefore_iff {} 1000000).1.2 (.inl (by decide)) watch⟩

/-- A wait of a millisecond that has no end, although nobody owns any lock. -/
theorem endless_oneThread :
    ∃ start, create { deadlock := { initialSlice := 0 } } (fun _ => .ok (.memory 0 [])) =
        .ok start ∧
      ∃ watch : Watch { initialSlice := 0 } 1000000, watch.host = start.heedAll oneThread ∧
        watch.Endless ∧ ∀ most, ¬ watch.EndsBefore most := by
  obtain ⟨start, created, watch, host, fixed, unset, calm⟩ :=
    exists_watch { initialSlice := 0 } 1000000
  have endless := Watch.endless rfl (by decide) fixed unset (by rw [calm])
  exact ⟨start, created, watch, host, endless, endless.not_endsBefore⟩

end Steward.Host
