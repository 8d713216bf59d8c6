import Steward.Proofs.Host.Course

/-! Alerts among any number of threads that wait and are alerted in any order. An alert stays
pending until a wait of its thread is interrupted, and only an alertable wait is. -/

set_option autoImplicit false

namespace Steward.Host

open Deadlock

/-- A thread that has a number is alerted. -/
def Moment.alerts (thread : ThreadId) (moment : Moment) : Bool :=
  match moment.call with
  | .alert other => decide (other = thread) && moment.host.controls.contains thread
  | _ => false

/-- A thread is told that its wait was interrupted. -/
def Moment.interrupts (thread : ThreadId) (moment : Moment) : Bool :=
  match moment.call with
  | .turn other => decide (other = thread) &&
      (moment.host.turn thread).1.any fun ending => decide (ending.outcome = .interrupted)
  | _ => false

/-- A thread takes its turn. -/
def Moment.isTurnOf (thread : ThreadId) (moment : Moment) : Bool :=
  match moment.call with
  | .turn other => decide (other = thread)
  | _ => false

/-- A thread was alerted, and no wait of it was interrupted since. -/
def AlertPending (thread : ThreadId) (moments : List Moment) : Prop :=
  ∃ early alert late, moments = early ++ alert :: late ∧ alert.alerts thread = true ∧
    ∀ moment ∈ late, moment.interrupts thread = false

/-- How a thread wishes to wait with a call. -/
def Call.waitsOf? (thread : ThreadId) : Call → Option Sync.WaitOptions
  | .wait other _ _ options | .sleep other _ options | .monitorWait other _ _ _ options =>
      if other = thread then some options else none
  | _ => none

variable {start host after last : Host} {moments more : List Moment} {moment : Moment}
  {thread : ThreadId}

theorem Moment.interrupts_of_alerts (alerts : moment.alerts thread = true) :
    moment.interrupts thread = false := by
  obtain ⟨host, call⟩ := moment
  cases call with
  | alert other => rfl
  | _ => cases alerts

theorem alertPending_append :
    AlertPending thread (moments ++ [moment]) ↔
      moment.alerts thread = true ∨
        (AlertPending thread moments ∧ moment.interrupts thread = false) := by
  constructor
  · rintro ⟨early, alert, late, split, alerts, spared⟩
    rcases split_append split with ⟨rest, rfl, rfl⟩ | ⟨rest, rfl, inside⟩
    · have quiet : ∀ other ∈ rest, other.interrupts thread = false := fun other there =>
        spared other (by simp [there])
      exact .inr ⟨⟨early, alert, rest, rfl, alerts, quiet⟩, spared moment (by simp)⟩
    · have only : alert ∈ [moment] := by simp [inside]
      exact .inl (List.mem_singleton.1 only ▸ alerts)
  · rintro (alerts | ⟨⟨early, alert, late, rfl, alerts, spared⟩, passes⟩)
    · exact ⟨moments, moment, [], rfl, alerts, by simp⟩
    · refine ⟨early, alert, late ++ [moment], by simp, alerts, fun other there => ?_⟩
      rcases List.mem_append.1 there with inside | last
      · exact spared other inside
      · exact List.mem_singleton.1 last ▸ passes

/-! ### Interruptions -/

/-- A thread is told of an interruption only where its wait ended with one. -/
theorem interrupted_of_conclude {wait : Wait} {ending told : Ending}
    (made : (host.conclude thread wait ending).1 = some told)
    (outcome : told.outcome = .interrupted) : ending.outcome = .interrupted := by
  unfold conclude at made
  cases purpose : wait.purpose with
  | plain | monitor | shutdown =>
    simp only [purpose, Option.some.injEq] at made
    rwa [made]
  | sleep =>
    simp only [purpose, Option.some.injEq] at made
    split at made
    · rw [← made] at outcome
      cases outcome
    · rwa [made]
  | start =>
    simp only [purpose] at made
    split at made <;> cases made
  | watched cookie backoff =>
    simp only [purpose, sliceOver] at made
    split at made
    · -- A slice that passed ends with a ring, or when there is no time left.
      split at made
      · cases made
        cases outcome
      · split at made <;> cases made
        cases outcome
    · rwa [Option.some.inj made]

theorem conclude_of_interrupted {wait : Wait} {ending : Ending}
    (apart : wait.purpose ≠ .start) (outcome : ending.outcome = .interrupted) :
    (host.conclude thread wait ending).1 = some ending := by
  unfold conclude
  cases purpose : wait.purpose with
  | start => exact absurd purpose apart
  | plain | sleep | monitor | watched | shutdown => simp [outcome, Sync.Outcome.isTimedOut]

/-- A thread is told of an interruption just when a wait of it ended with one. Who waits for its
start is not interrupted. -/
theorem interrupts_iff (gated : host.Gated) :
    Moment.interrupts thread ⟨host, .turn thread⟩ = true ↔
      ∃ wait ending looked, host.glimpse thread = some (wait, ending, looked) ∧
        ending.outcome = .interrupted := by
  have unfolded : Moment.interrupts thread ⟨host, .turn thread⟩ =
      (host.turn thread).1.any fun ending => decide (ending.outcome = .interrupted) := by
    simp [Moment.interrupts]
  rw [unfolded, Option.any_eq_true]
  simp only [decide_eq_true_eq]
  constructor
  · rintro ⟨told, made, outcome⟩
    cases seen : host.glimpse thread with
    | none => rw [(turn_of_glimpse_eq_none seen).1] at made; cases made
    | some sight =>
      obtain ⟨wait, ending, looked⟩ := sight
      rw [(glimpse_eq_some seen).2.1] at made
      exact ⟨wait, ending, looked, rfl, interrupted_of_conclude made outcome⟩
  · rintro ⟨wait, ending, looked, seen, outcome⟩
    obtain ⟨found, _, made⟩ := attempt_of_glimpse seen
    have alertable : wait.options.alertable = true := by
      have tried := roster_attempt made
      rw [if_pos outcome] at tried
      exact tried.1
    have apart : wait.purpose ≠ .start := by
      intro starts
      rw [(gated thread wait found starts).options] at alertable
      cases alertable
    rw [(glimpse_eq_some seen).2.1]
    exact ⟨ending, conclude_of_interrupted apart outcome, outcome⟩

theorem not_interrupts (gated : host.Gated) {other : ThreadId}
    (otherwise : ∀ wait ending looked, host.glimpse other = some (wait, ending, looked) →
      ending.outcome ≠ .interrupted) : Moment.interrupts thread ⟨host, .turn other⟩ = false := by
  by_cases same : other = thread
  · subst same
    refine Bool.eq_false_iff.2 fun interrupts => ?_
    obtain ⟨wait, ending, looked, seen, outcome⟩ := (interrupts_iff gated).1 interrupts
    exact otherwise wait ending looked seen outcome
  · simp [Moment.interrupts, same]

/-- Only an alert alerts a thread, and only an interruption ends that. -/
theorem isAlerted_begin (numbered : host.roster.Numbered) (gated : host.Gated) (call : Call)
    (thread : ThreadId) :
    (host.begin call).isAlerted thread = (Moment.alerts thread ⟨host, call⟩ ||
      (host.isAlerted thread && !Moment.interrupts thread ⟨host, call⟩)) := by
  have read : ∀ other : Host, other.isAlerted thread = (other.roster.control thread).alerted :=
    fun _ => rfl
  -- Most calls neither alert anybody nor interrupt anything.
  have aside : Moment.alerts thread ⟨host, call⟩ = false →
      Moment.interrupts thread ⟨host, call⟩ = false →
      ((host.begin call).roster.control thread).alerted = (host.roster.control thread).alerted →
      (host.begin call).isAlerted thread = (Moment.alerts thread ⟨host, call⟩ ||
        (host.isAlerted thread && !Moment.interrupts thread ⟨host, call⟩)) := by
    intro silent spared same
    rw [silent, spared, read, read, same, Bool.not_false, Bool.and_true, Bool.false_or]
  have handled := host.handled call
  generalize outcome : (host.begin call).roster = roster at handled aside
  cases handled with
  | spared spares =>
    refine aside ?_ ?_ rfl <;> cases call <;> first | rfl | cases spares
  | asked asks =>
    refine aside ?_ ?_ rfl <;> cases call <;> first | rfl | cases asks
  | spawned | refused | created =>
    exact aside rfl rfl (numbered.read_number Tasks.Control.alerted (by rfl) thread)
  | started => exact aside rfl rfl (Roster.read_regate _ _ _ _ (fun _ _ => rfl) _)
  | removed | unlisted => exact aside rfl rfl (Roster.read_unlist _ _ _ _ fun _ _ => rfl)
  | ranked | closed => exact aside rfl rfl (Roster.read_modify _ _ _ _ fun _ => rfl)
  | found | told | noted | ended | stayed | unbound => exact aside rfl rfl rfl
  | dismissed seen purpose abandoned =>
    refine aside rfl (not_interrupts gated fun wait ending looked again => ?_) rfl
    cases seen.symm.trans again
    rw [abandoned]
    nofun
  | turned otherwise =>
    exact aside rfl (not_interrupts gated fun wait ending looked seen =>
      (otherwise wait ending looked seen).1) rfl
  | alerted other =>
    have alerts : Moment.alerts thread ⟨host, .alert other⟩ =
        (decide (other = thread) && host.controls.contains thread) := rfl
    by_cases here : other = thread ∧ host.controls.contains thread = true
    · rw [read, outcome, Roster.control_modify, if_pos ⟨here.1.symm, here.1 ▸ here.2⟩, alerts]
      simp [here]
    · refine aside (by simpa [alerts] using here) rfl ?_
      rw [Roster.control_modify, if_neg]
      rintro ⟨rfl, there⟩
      exact here ⟨rfl, there⟩
  | @interrupted other wait ending looked seen interrupted =>
    by_cases same : other = thread
    · subst same
      have interrupts := (interrupts_iff gated).2 ⟨wait, ending, looked, seen, interrupted⟩
      have alerts : Moment.alerts other ⟨host, .turn other⟩ = false := rfl
      rw [read, outcome, Roster.control_modify, interrupts, alerts]
      split
      · simp
      · next absent =>
        have absent : host.roster.controls.contains other = false := by simpa using absent
        simp [Roster.control_of_absent absent]
    · refine aside rfl (by simp [Moment.interrupts, same]) ?_
      rw [Roster.control_modify, if_neg fun there => same there.1.symm]

/-- A thread is interrupted only in an alertable wait, and while an alert is pending. -/
theorem alertable_of_interrupts (gated : moment.host.Gated)
    (interrupts : moment.interrupts thread = true) :
    moment.host.isAlerted thread = true ∧
      ∃ wait, moment.host.waits.get? thread = some wait ∧ wait.options.alertable = true := by
  obtain ⟨host, call⟩ := moment
  cases call with
  | turn other =>
    obtain rfl : other = thread := by
      simp only [Moment.interrupts, Bool.and_eq_true, decide_eq_true_eq] at interrupts
      exact interrupts.1
    obtain ⟨wait, ending, looked, seen, outcome⟩ := (interrupts_iff gated).1 interrupts
    obtain ⟨found, _, made⟩ := attempt_of_glimpse seen
    have tried := roster_attempt made
    rw [if_pos outcome] at tried
    exact ⟨tried.2.1, wait, found, tried.1⟩
  | _ => cases interrupts

/-! ### Waits under an alert -/

/-- What threads can wait for is as it was. -/
structure Untouched (host after : Host) : Prop where
  signals : after.signals = host.signals
  semaphores : after.semaphores = host.semaphores
  locks : after.locks = host.locks
  registry : after.registry = host.registry

theorem untouched_conclude {wait : Wait} {ending : Ending}
    (outcome : ending.outcome = .interrupted) :
    Untouched host (host.conclude thread wait ending).2 := by
  have unsignaled : ending.outcome.isSignaled = false := by rw [outcome]; rfl
  have lasting : ending.outcome.isTimedOut = false := by rw [outcome]; rfl
  unfold conclude
  cases wait.purpose with
  | plain | sleep | shutdown => exact ⟨rfl, rfl, rfl, rfl⟩
  | monitor | watched =>
    simp only [lasting, noteAcquired, unsignaled, Bool.false_eq_true, if_false]
    exact ⟨rfl, rfl, rfl, rfl⟩
  | start =>
    simp only [outcome, reduceCtorEq, if_false]
    exact ⟨rfl, rfl, rfl, rfl⟩

/-- A thread that begins a wait under an alert is interrupted before it looks. -/
theorem turn_of_isForestalled {wait : Wait} (found : host.waits.get? thread = some wait)
    (forestalled : host.isForestalled thread wait = true) (apart : wait.purpose ≠ .start) :
    (host.turn thread).1 = some ⟨.interrupted, none⟩ ∧ Untouched host (host.turn thread).2 := by
  have stirs : wait.stage ≠ .asleep := by
    intro asleep
    simp [isForestalled, asleep] at forestalled
  let passed := ((host.away thread).clearAlert thread).passOn wait.target
  have tried : (host.away thread).attempt thread wait = (some ⟨.interrupted, none⟩, passed) := by
    unfold attempt
    exact if_pos forestalled
  have turns : host.turn thread = passed.conclude thread wait ⟨.interrupted, none⟩ := by
    rw [turn_eq found stirs, tried]
  have passes : Untouched host passed := by
    obtain ⟨woken, roused⟩ := ((host.away thread).clearAlert thread).rouses_deliverAll
      (((host.away thread).clearAlert thread).passWakeUps wait.target)
    have same : passed = ((host.away thread).clearAlert thread).rouse woken :=
      (passOn_eq_deliverAll _ _).trans roused
    rw [same]
    exact ⟨rfl, rfl, rfl, rfl⟩
  have concluded : Untouched passed (passed.conclude thread wait ⟨.interrupted, none⟩).2 :=
    untouched_conclude rfl
  rw [turns]
  exact ⟨conclude_of_interrupted apart rfl, concluded.signals.trans passes.signals,
    concluded.semaphores.trans passes.semaphores, concluded.locks.trans passes.locks,
    concluded.registry.trans passes.registry⟩

/-- A thread begins an alertable wait, and has not looked yet. -/
def Poised (thread : ThreadId) (host : Host) : Prop :=
  ∃ wait, host.waits.get? thread = some wait ∧ wait.stage = .starting ∧
    wait.options.alertable = true ∧ wait.purpose ≠ .start

theorem poised_begin {call : Call} {options : Sync.WaitOptions}
    (waits : call.waitsOf? thread = some options) (alertable : options.alertable = true)
    (idle : host.isIdle thread = true) : Poised thread (host.begin call) := by
  have opener : call.opener? = some thread := by
    cases call with
    | wait | sleep | monitorWait =>
      simp only [Call.waitsOf?, Option.ite_none_right_eq_some] at waits
      exact congrArg some waits.1
    | _ => cases waits
  obtain ⟨wait, opens⟩ := host.opens opener
  refine ⟨wait, by rw [opens.idle idle, Assoc.get?_insert_self], ?_⟩
  cases opens.begins with
  | wait | sleep | monitor | watched =>
    simp only [Call.waitsOf?, if_true, Option.some.injEq] at waits
    exact ⟨rfl, waits ▸ alertable, nofun⟩
  | shutdown | gate => cases waits

theorem Poised.next (poised : Poised thread host) (orderly : host.Orderly)
    (step : Next host more after) (rests : ∀ moment ∈ more, moment.isTurnOf thread = false) :
    Poised thread after := by
  obtain ⟨wait, found, starts, alertable, apart⟩ := poised
  cases step with
  | began call accepted =>
    have elsewhere : call ≠ .turn thread := by
      rintro rfl
      have turns := rests _ (List.mem_singleton_self _)
      simp [Moment.isTurnOf] at turns
    have stays := (fares orderly call thread).of_starting found starts elsewhere
    exact ⟨wait, stays, starts, alertable, apart⟩
  | roused woken =>
    refine ⟨wait, ?_, starts, alertable, apart⟩
    rw [get?_rouse, found, Option.map_some, Wait.wake_of_stirring (by simp [starts]), ite_self]
  | respun => exact ⟨wait, found, starts, alertable, apart⟩

theorem interrupts_of_rest (rests : moment.isTurnOf thread = false) :
    moment.interrupts thread = false := by
  obtain ⟨host, call⟩ := moment
  cases call with
  | turn other =>
    have apart : other ≠ thread := by simpa [Moment.isTurnOf] using rests
    simp [Moment.interrupts, apart]
  | _ => rfl

theorem AlertPending.append (pending : AlertPending thread moments)
    (spares : ∀ moment ∈ more, moment.interrupts thread = false) :
    AlertPending thread (moments ++ more) := by
  obtain ⟨early, alert, late, rfl, alerts, spared⟩ := pending
  refine ⟨early, alert, late ++ more, by simp, alerts, fun moment there => ?_⟩
  exact (List.mem_append.1 there).elim (spared moment) (spares moment)

/-- An alert that was pending between two interruptions came after the first of them. -/
theorem AlertPending.between {early middle : List Moment} {first : Moment}
    (pending : AlertPending thread (early ++ first :: middle))
    (interrupts : first.interrupts thread = true) :
    ∃ alert ∈ middle, alert.alerts thread = true := by
  obtain ⟨before, alert, late, split, alerts, spared⟩ := pending
  rcases split_append split with ⟨rest, rfl, rfl⟩ | ⟨rest, rfl, inside⟩
  · rw [spared first (by simp)] at interrupts
    cases interrupts
  · cases rest with
    | nil =>
      obtain ⟨rfl, rfl⟩ := List.cons.inj inside
      rw [Moment.interrupts_of_alerts alerts] at interrupts
      cases interrupts
    | cons other rest =>
      obtain ⟨rfl, rfl⟩ := List.cons.inj inside
      exact ⟨alert, by simp, alerts⟩

variable {config : Config} {opened : String → Except Error Trace.Sink}

theorem pending_of_course (made : Host.create config opened = .ok start)
    (course : Course start moments last) (thread : ThreadId) :
    last.isAlerted thread = true ↔ AlertPending thread moments := by
  let holds : List Moment → Host → Prop := fun moments host => host.Gated ∧
    host.roster.Numbered ∧ (host.isAlerted thread = true ↔ AlertPending thread moments)
  have initial : holds [] start := by
    refine ⟨.create made, numbered_of_create made, ?_⟩
    rw [isAlerted, control, (nobody_of_create made).2]
    refine ⟨fun alerted => ?_, ?_⟩
    · cases alerted
    · rintro ⟨early, alert, late, split, _⟩
      simp at split
  have kept : holds moments last := by
    refine @Course.induction _ _ _ holds (fun _ => True) course (.create made) (fun _ _ => trivial)
      initial fun early more middle after step orderly _ before => ?_
    obtain ⟨gated, numbered, same⟩ := before
    refine ⟨gated.next orderly step, ?_⟩
    cases step with
    | began call accepted =>
      refine ⟨((middle.handled call).numbered numbered).1, ?_⟩
      rw [isAlerted_begin numbered gated, alertPending_append, ← same]
      simp
    | roused | respun => exact ⟨numbered, (List.append_nil early).symm ▸ same⟩
  exact kept.2.2

/-- A thread is alerted just when it was alerted since it was last interrupted, so that nothing but
an interruption uses an alert up: waits that end otherwise leave it pending. Only alertable waits
are interrupted, each by an alert of its own. The first alertable wait that begins under an alert is
interrupted as soon as its thread looks, and takes nothing of what it waits for, even if that is
there. -/
theorem isAlerted_iff_pending (made : Host.create config opened = .ok start)
    (course : Course start moments last) (thread : ThreadId) :
    (last.isAlerted thread = true ↔ AlertPending thread moments) ∧
      (∀ early moment late, moments = early ++ moment :: late →
        moment.interrupts thread = true → AlertPending thread early ∧
          ∃ wait, moment.host.waits.get? thread = some wait ∧ wait.options.alertable = true) ∧
      (∀ early first middle second late, moments = early ++ first :: middle ++ second :: late →
        first.interrupts thread = true → second.interrupts thread = true →
          ∃ alert ∈ middle, alert.alerts thread = true) ∧
      ∀ call options, call.waitsOf? thread = some options → options.alertable = true →
        last.accepts call = true → last.isIdle thread = true → AlertPending thread moments →
        ∀ more after, Course (last.begin call) more after →
          (∀ moment ∈ more, moment.isTurnOf thread = false) →
          (after.turn thread).1 = some ⟨.interrupted, none⟩ ∧
            Untouched after (after.turn thread).2 := by
  have gated : start.Gated := .create made
  have orderly : start.Orderly := .create made
  have interrupted : ∀ early moment late, moments = early ++ moment :: late →
      moment.interrupts thread = true → AlertPending thread early ∧
        ∃ wait, moment.host.waits.get? thread = some wait ∧ wait.options.alertable = true := by
    rintro early moment late rfl interrupts
    obtain ⟨led, _, _⟩ := course.cut
    obtain ⟨alerted, waiting⟩ := alertable_of_interrupts (gated.course orderly led) interrupts
    exact ⟨(pending_of_course made led thread).1 alerted, waiting⟩
  refine ⟨pending_of_course made course thread, interrupted, ?_, ?_⟩
  · intro early first middle second late split before interrupts
    exact (interrupted _ second late split interrupts).1.between before
  · intro call options waits alertable accepted idle pending more after onward rests
    have whole := (course.call call accepted).append onward
    have alerted : after.isAlerted thread = true := by
      have opened : Moment.interrupts thread ⟨last, call⟩ = false := by
        cases call <;> first | rfl | cases waits
      refine (pending_of_course made whole thread).2 (AlertPending.append ?_ fun moment inside =>
        interrupts_of_rest (rests moment inside))
      exact alertPending_append.2 (.inr ⟨pending, opened⟩)
    let poised : List Moment → Host → Prop := fun _ host => Poised thread host
    have still : poised more after := by
      refine @Course.induction _ _ _ poised (fun moment => moment.isTurnOf thread = false) onward
        ((course.call call accepted).orderly orderly) rests
        (poised_begin waits alertable idle) fun _ _ _ _ step settled rests before => ?_
      exact Poised.next before settled step rests
    obtain ⟨wait, found, starts, alertable, apart⟩ := still
    exact turn_of_isForestalled found (by simp [isForestalled, starts, alertable, alerted]) apart

/-- A sleep outlasts an alert, which then interrupts a wait for a signal that is set. A second
alert is left over. -/
def alertedSleeper : List Call :=
  [.spawn, .addSignal { lasting := true, isSet := true }, .alert ⟨1⟩, .sleep ⟨1⟩ 5 {}, .turn ⟨1⟩,
    .elapse 5, .turn ⟨1⟩, .wait ⟨1⟩ (.signal 0) none { alertable := true }, .turn ⟨1⟩, .alert ⟨1⟩]

theorem isAlerted_iff_pending_alertedSleeper :
    ∃ start, Host.create {} (fun _ => .ok (.memory 0 [])) = .ok start ∧
      ∃ moments, Course start moments (start.heedAll alertedSleeper) ∧
        moments.countP (Moment.interrupts ⟨1⟩) = 1 ∧ AlertPending ⟨1⟩ moments ∧
        (Host.turn ((start.heedAll alertedSleeper).begin
          (.wait ⟨1⟩ (.signal 0) none { alertable := true })) ⟨1⟩).1 =
            some ⟨.interrupted, none⟩ := by
  have course := Course.heedAll .start (@Orderly.create {} (fun _ => .ok (.memory 0 [])) _ rfl)
    (show acceptsAll _ alertedSleeper = true from rfl)
  refine ⟨_, rfl, _, course, by decide +kernel, ?_⟩
  obtain ⟨pending, _, _, opening⟩ :=
    @isAlerted_iff_pending _ _ _ {} (fun _ => .ok (.memory 0 [])) rfl course ⟨1⟩
  have left := pending.1 (by decide +kernel)
  exact ⟨left, (opening (.wait ⟨1⟩ (.signal 0) none { alertable := true }) _ rfl rfl
    (by decide +kernel) (by decide +kernel) left [] _ .start (by simp)).1⟩

end Steward.Host
