import Steward.Proofs.Tasks.Registration

/-! The life of a task that was created for a new thread. Whether it was started before it was
removed decides what its thread finds at its gate, and what everybody else sees of the task. -/

set_option autoImplicit false

namespace Steward.Tasks

/-- How far a task has come. -/
def State.rank : State → Nat
  | created => 0
  | running => 1
  | removed => 2

/-- A gate once it was opened, or its thread cancelled. -/
def Gate.moved (gate : Gate) (opens cancels : Bool) : Gate :=
  if gate = .suspended then
    if opens then .running else if cancels then .cancelled else .suspended
  else gate

theorem Gate.moved_neither (gate : Gate) : gate.moved false false = gate := by
  cases gate <;> rfl

end Steward.Tasks

namespace Steward.Host

open Tasks

/-- A task is started. -/
def Moment.starts (serial : Nat) (moment : Moment) : Bool :=
  match moment.call with
  | .startTask other => decide (other = serial)
  | _ => false

/-- Any task of a thread is started. -/
def Moment.opensGate (thread : ThreadId) (moment : Moment) : Bool :=
  match moment.call with
  | .startTask serial => decide ((moment.host.task serial).thread = thread)
  | _ => false

/-- The turn of a thread ends its wait for its start. -/
def Moment.passesGate (thread : ThreadId) (moment : Moment) : Bool :=
  match moment.call with
  | .turn other => decide (other = thread) &&
      (moment.host.glimpse thread).any fun sight => decide (sight.1.purpose = .start)
  | _ => false

/-- A thread goes from its gate to its routine. Otherwise it goes on to its end. -/
def Moment.runsRoutine (thread : ThreadId) (moment : Moment) : Bool :=
  moment.passesGate thread &&
    (moment.host.glimpse thread).any fun sight => decide (sight.2.1.outcome = .signaled)

theorem Moment.passesGate_of_runsRoutine {thread : ThreadId} {moment : Moment}
    (runs : moment.runsRoutine thread = true) : moment.passesGate thread = true := by
  simp only [Moment.runsRoutine, Bool.and_eq_true] at runs
  exact runs.1

/-- The task of a thread was removed. -/
def wasRemoved (thread : ThreadId) (moments : List Moment) : Bool :=
  moments.any (Moment.removes thread)

/-- A task was started before it was removed for the first time. -/
def startedFirst (serial : Nat) (thread : ThreadId) (moments : List Moment) : Bool :=
  (moments.takeWhile fun moment => !moment.removes thread).any (Moment.starts serial)

/-- What is seen of a task after all this. -/
def stateAfter (serial : Nat) (thread : ThreadId) (moments : List Moment) : State :=
  if wasRemoved thread moments then .removed
  else if startedFirst serial thread moments then .running
  else .created

/-- How the gate of a task's thread is after all this. -/
def gateAfter (serial : Nat) (thread : ThreadId) (moments : List Moment) : Gate :=
  if startedFirst serial thread moments then .running
  else if wasRemoved thread moments then .cancelled
  else .suspended

variable {start host last : Host} {moments more : List Moment} {moment : Moment} {call : Call}
  {thread : ThreadId} {serial : Nat} {after : Roster}

/-! ### Starts and removals in order -/

theorem wasRemoved_append : wasRemoved thread (moments ++ [moment]) =
    (wasRemoved thread moments || moment.removes thread) := by
  simp [wasRemoved]

theorem Moment.not_removes_of_starts (starts : moment.starts serial = true) :
    moment.removes thread = false := by
  obtain ⟨host, call⟩ := moment
  cases call with
  | startTask => rfl
  | _ => cases starts

/-- After a removal it is too late for a start. -/
theorem startedFirst_append : startedFirst serial thread (moments ++ [moment]) =
    (startedFirst serial thread moments ||
      (!wasRemoved thread moments && moment.starts serial)) := by
  induction moments with
  | nil =>
    cases starts : moment.starts serial with
    | true => simp [startedFirst, wasRemoved, starts, Moment.not_removes_of_starts starts]
    | false =>
      cases removes : moment.removes thread <;>
        simp [startedFirst, wasRemoved, starts, removes]
  | cons first rest ih =>
    cases removes : first.removes thread with
    | true => simp [startedFirst, wasRemoved, removes]
    | false =>
      simp only [startedFirst, wasRemoved, List.cons_append, List.takeWhile_cons, removes,
        Bool.not_false, if_true, List.any_cons, Bool.false_or] at ih ⊢
      rw [ih, Bool.or_assoc]

/-- Once a task was started or removed, what comes later does not change which came first. -/
theorem startedFirst_of_settled
    (settled : startedFirst serial thread moments = true ∨ wasRemoved thread moments = true) :
    startedFirst serial thread (moments ++ more) = startedFirst serial thread moments := by
  induction more generalizing moments with
  | nil => rw [List.append_nil]
  | cons moment rest ih =>
    have once : startedFirst serial thread (moments ++ [moment]) =
        startedFirst serial thread moments := by
      rw [startedFirst_append]
      rcases settled with started | gone
      · simp [started]
      · simp [gone]
    have still : startedFirst serial thread (moments ++ [moment]) = true ∨
        wasRemoved thread (moments ++ [moment]) = true :=
      settled.imp (fun started => once.trans started) fun gone => by simp [wasRemoved_append, gone]
    have next := ih still
    rw [List.append_assoc, List.singleton_append] at next
    exact next.trans once

theorem rank_stateAfter_append : (stateAfter serial thread moments).rank ≤
    (stateAfter serial thread (moments ++ more)).rank := by
  induction more generalizing moments with
  | nil => simp
  | cons moment rest ih =>
    have once : (stateAfter serial thread moments).rank ≤
        (stateAfter serial thread (moments ++ [moment])).rank := by
      unfold stateAfter
      rw [wasRemoved_append, startedFirst_append]
      cases wasRemoved thread moments <;> cases moment.removes thread <;>
        cases startedFirst serial thread moments <;> cases moment.starts serial <;>
          simp [State.rank]
    have next := @ih (moments ++ [moment])
    rw [List.append_assoc, List.singleton_append] at next
    exact Nat.le_trans once next

/-! ### Gates -/

theorem gate_regate (roster : Roster) (thread other : ThreadId) :
    ((roster.regate other .running).control thread).gate =
      (roster.control thread).gate.moved (decide (other = thread)) false := by
  rw [Roster.control_regate]
  by_cases same : thread = other
  · subst same
    cases closed : (roster.control thread).gate <;> simp [Gate.moved, closed]
  · simp [Gate.moved_neither, same, Ne.symm same]

theorem gate_unlist (roster : Roster) (thread other : ThreadId) :
    ((roster.unlist other).control thread).gate = (roster.control thread).gate.moved false
      (decide (other = thread) && roster.tasks.live.contains thread) := by
  rw [Roster.control_unlist]
  by_cases same : thread = other
  · subst same
    cases closed : (roster.control thread).gate <;>
      cases listed : roster.tasks.live.contains thread <;> simp [Gate.moved, closed]
  · simp [Gate.moved_neither, same, Ne.symm same]

theorem control_number_of_known (roster : Roster) (control : Control)
    (known : thread.value < roster.nextThread) :
    (roster.number control).control thread = roster.control thread := by
  rw [Roster.control_number, if_neg (ne_next_of_known known)]

/-- A gate that is closed opens or is cancelled, and any other stays as it is. -/
theorem Handled.gate (handled : Handled host call after) (known : thread.value < host.nextThread) :
    (after.control thread).gate = (host.control thread).gate.moved
      (Moment.opensGate thread ⟨host, call⟩)
      (Moment.removes thread ⟨host, call⟩ && host.tasks.live.contains thread) := by
  -- Most calls neither open the gate nor remove the task.
  have aside : Moment.opensGate thread ⟨host, call⟩ = false →
      Moment.removes thread ⟨host, call⟩ = false →
      (after.control thread).gate = (host.roster.control thread).gate →
      (after.control thread).gate = (host.control thread).gate.moved
        (Moment.opensGate thread ⟨host, call⟩)
        (Moment.removes thread ⟨host, call⟩ && host.tasks.live.contains thread) := by
    intro shut spared same
    rw [shut, spared, Bool.false_and, Gate.moved_neither]
    exact same
  have numbered : ∀ control, (host.roster.number control).control thread =
      host.roster.control thread := fun control => control_number_of_known _ control known
  cases handled with
  | spared mild | asked mild =>
    refine aside ?_ ?_ rfl <;> cases call <;> first | rfl | cases mild
  | spawned | refused | created => exact aside rfl rfl (congrArg Control.gate (numbered _))
  | started serial => exact gate_regate host.roster thread (host.task serial).thread
  | removed other => exact gate_unlist host.roster thread other
  | @unlisted other stage =>
    have removes : Moment.removes thread ⟨host, .depart other⟩ = decide (other = thread) := by
      simp [Moment.removes, stage]
    rw [removes]
    exact gate_unlist host.roster thread other
  | stayed stage | unbound stage => exact aside rfl (by simp [Moment.removes, stage]) rfl
  | closed stage =>
    exact aside rfl (by simp [Moment.removes, stage])
      (Roster.read_modify _ _ _ Control.gate fun _ => rfl)
  | ranked | alerted | interrupted =>
    exact aside rfl rfl (Roster.read_modify _ _ _ Control.gate fun _ => rfl)
  | found | told | noted | ended | dismissed | turned => exact aside rfl rfl rfl

/-! ### A task and its thread -/

/-- A task that is kept goes on being kept for its thread, and is removed with the thread's. -/
theorem Tabled.keeps {tasks : Table} {task : Task} (tabled : Tabled host call tasks)
    (listed : host.tasks.Listed) (found : host.tasks.tasks.get? serial = some task) :
    ∃ kept, tasks.tasks.get? serial = some kept ∧ kept.thread = task.thread ∧
      kept.removed = (task.removed || Moment.removes task.thread ⟨host, call⟩) := by
  have fresh := listed.fresh serial task found
  have added : ∀ thread, (host.tasks.add thread).2.tasks.get? serial = some task := fun thread => by
    simp [Table.add, Nat.ne_of_lt fresh, found]
  cases tabled with
  | same spares => exact ⟨task, found, rfl, by simp [spares]⟩
  | added => exact ⟨task, added _, rfl, (Bool.or_false _).symm⟩
  | found thread =>
    refine ⟨task, ?_, rfl, (Bool.or_false _).symm⟩
    unfold Table.find
    split
    · exact found
    · exact added thread
  | noted => exact ⟨task, found, rfl, (Bool.or_false _).symm⟩
  | told made =>
    rcases Table.setLogical_eq_ok made with rfl | ⟨known, there, _, rfl⟩
    · exact ⟨task, found, rfl, (Bool.or_false _).symm⟩
    · simp only [Table.addManaged, Assoc.get?_insert]
      split
      · next same =>
        subst same
        cases there.symm.trans found
        exact ⟨_, rfl, rfl, (Bool.or_false _).symm⟩
      · exact ⟨task, found, rfl, (Bool.or_false _).symm⟩
  | @removed _ thread removes =>
    have kept : (host.tasks.remove thread).2.tasks.get? serial = some
        (if host.tasks.live.get? thread = some serial then
          { task with removed := true, logical := none } else task) := by
      rw [Table.get?_remove, found, Option.map_some]
    refine ⟨_, kept, by split <;> rfl, ?_⟩
    rw [removes]
    by_cases own : thread = task.thread
    · subst own
      cases gone : task.removed with
      | true => split <;> simp [gone]
      | false => rw [if_pos (listed.listed serial task found gone)]; simp
    · -- The task that is listed for a thread is that thread's own.
      have other : host.tasks.live.get? thread ≠ some serial := by
        intro lives
        obtain ⟨same, there, home, _⟩ := listed.live thread serial lives
        cases there.symm.trans found
        exact own home.symm
      simp [other, own]

theorem result_startTask (host : Host) (serial : Nat) :
    (host.startTask serial).1 =
      if (host.control (host.task serial).thread).gate = .suspended ∨
          host.taskState serial = .running then .ok ()
      else .error (.taskNotFound (host.task serial).thread) := by
  unfold Host.startTask
  by_cases closed : (host.control (host.task serial).thread).gate = .suspended
  · simp [moveGate, Control.move?, closed]
  · simp [moveGate, Control.move?, closed]

/-- A task that was created, and its thread, with what happened to them so far. -/
structure Lives (serial : Nat) (thread : ThreadId) (moments : List Moment) (roster : Roster) :
    Prop where
  first : 0 < thread.value
  numbered : thread.value < roster.nextThread
  task : ∃ task, roster.tasks.tasks.get? serial = some task ∧ task.thread = thread ∧
    task.removed = wasRemoved thread moments
  /-- The thread gets another task only after this one was removed. -/
  alone : wasRemoved thread moments = false → ∀ other task,
    roster.tasks.tasks.get? other = some task → task.thread = thread → other = serial
  gate : (roster.control thread).gate = gateAfter serial thread moments

namespace Lives

theorem home (lives : Lives serial thread moments host.roster) :
    (host.task serial).thread = thread := by
  obtain ⟨task, found, home, _⟩ := lives.task
  rw [task_eq_of_found found, home]

/-- A start of the thread, by whatever task, is a start of its task until that is removed. -/
theorem opensGate_eq (lives : Lives serial thread moments host.roster)
    (stays : wasRemoved thread moments = false) (call : Call) :
    Moment.opensGate thread ⟨host, call⟩ = Moment.starts serial ⟨host, call⟩ := by
  cases call with
  | startTask other =>
    refine decide_eq_decide.2 ⟨fun home => ?_, ?_⟩
    · cases found : host.tasks.tasks.get? other with
      | none =>
        have first := lives.first
        simp [Host.task, Assoc.getD, found, ← home] at first
      | some task =>
        rw [task_eq_of_found found] at home
        exact lives.alone stays other task found home
    · rintro rfl
      exact lives.home
  | _ => rfl

theorem handled (lives : Lives serial thread moments host.roster)
    (registered : Registered host.roster) (numbered : host.roster.Numbered)
    (handled : Handled host call after) :
    Lives serial thread (moments ++ [⟨host, call⟩]) after := by
  obtain ⟨task, found, rfl, removed⟩ := lives.task
  have listed : host.tasks.Listed := registered.listed
  obtain ⟨kept, there, home, gone⟩ := handled.tabled.keeps listed found
  refine ⟨lives.first, Nat.lt_of_lt_of_le lives.numbered (handled.numbered numbered).2,
    ⟨kept, there, home, ?_⟩, fun stays other known inside own => ?_, ?_⟩
  · rw [gone, removed, wasRemoved_append]
  · -- As long as the task is listed, its thread is given no other.
    rw [wasRemoved_append, Bool.or_eq_false_iff] at stays
    have there := listed.listed serial task found (removed.trans stays.1)
    rcases handled.tabled.origin inside with ⟨before, earlier, same⟩ | ⟨_, new⟩ | ⟨_, absent⟩
    · exact lives.alone stays.1 other before earlier (same.trans own)
    · exact absurd (own.symm.trans new) (ne_next_of_known lives.numbered)
    · rw [own, there] at absent
      cases absent
  · -- A start or a removal moves the gate only if neither came before.
    have gate : (host.control task.thread).gate = gateAfter serial task.thread moments := lives.gate
    rw [handled.gate lives.numbered, gate]
    unfold gateAfter
    rw [startedFirst_append, wasRemoved_append]
    cases started : startedFirst serial task.thread moments with
    | true => simp [Gate.moved]
    | false =>
      cases gone : wasRemoved task.thread moments with
      | true => simp [Gate.moved]
      | false =>
        have there := listed.listed serial task found (removed.trans gone)
        have contained : host.tasks.live.contains task.thread = true := by
          simp [Assoc.contains, there]
        rw [lives.opensGate_eq gone call, contained]
        simp [Gate.moved]

theorem create {parent : ThreadId} (registered : Registered host.roster)
    (first : 0 < host.nextThread) (created : (host.createTask parent).1 = .ok serial) :
    Lives serial ⟨host.nextThread⟩ [] (host.begin (.createTask parent)).roster := by
  have handled := host.handled (.createTask parent)
  generalize (host.begin (.createTask parent)).roster = roster at handled ⊢
  cases handled with
  | spared spares => cases spares
  | asked asks => cases asks
  | refused denied => cases denied.symm.trans created
  | created made =>
    cases made.symm.trans created
    refine ⟨first, Nat.lt_succ_self _, ⟨_, Assoc.get?_insert_self .., rfl, rfl⟩,
      fun _ other task found own => ?_, ?_⟩
    · simp only [Table.add, Assoc.get?_insert] at found
      split at found
      · assumption
      · exact absurd own (ne_next_of_known (registered.numbered other task found))
    · have control := host.roster.control_number ⟨host.nextThread⟩ .suspended
      exact congrArg Control.gate (control.trans (if_pos rfl))

theorem taskState (lives : Lives serial thread moments host.roster) :
    host.taskState serial = stateAfter serial thread moments := by
  obtain ⟨task, found, rfl, removed⟩ := lives.task
  have gate : (host.control task.thread).gate = gateAfter serial task.thread moments := lives.gate
  rw [Host.taskState, task_eq_of_found found]
  unfold Task.state stateAfter Control.isStarted
  rw [removed, gate, gateAfter]
  cases wasRemoved task.thread moments <;> cases startedFirst serial task.thread moments <;> rfl

/-- A start succeeds just when the task was not removed. -/
theorem startTask (lives : Lives serial thread moments host.roster) :
    (host.startTask serial).1 =
      if wasRemoved thread moments then .error (.taskNotFound thread) else .ok () := by
  have gate : (host.control thread).gate = gateAfter serial thread moments := lives.gate
  rw [result_startTask, lives.home, gate, lives.taskState]
  unfold gateAfter stateAfter
  cases startedFirst serial thread moments <;> cases wasRemoved thread moments <;> rfl

/-- What happened to a task and its thread along a course. -/
theorem course (lives : Lives serial thread moments host.roster)
    (registered : Registered host.roster) (numbered : host.roster.Numbered)
    (onward : Course host more last) (apt : ∀ moment ∈ more, moment.isApt = true) :
    Lives serial thread (moments ++ more) last.roster := by
  let holds : List Moment → Roster → Prop := fun past roster =>
    roster.Numbered ∧ Registered roster ∧ Lives serial thread (moments ++ past) roster
  have kept : holds more last.roster := by
    refine @Course.roster_induction _ _ _ holds _ onward apt
      ⟨numbered, registered, (List.append_nil moments).symm ▸ lives⟩ ?_
    intro past moment apt ⟨numbered, registered, lives⟩
    have handled := moment.host.handled moment.call
    have next := lives.handled registered numbered handled
    rw [List.append_assoc] at next
    exact ⟨(handled.numbered numbered).1, registered.handled handled numbered apt, next⟩
  exact kept.2.2

end Lives

/-! ### At the gate -/

/-- A thread waits for its start. -/
def AtGate (host : Host) (thread : ThreadId) : Prop :=
  ∃ wait, host.waits.get? thread = some wait ∧ wait.purpose = .start

theorem atGate_of_passesGate (passes : moment.passesGate thread = true) :
    moment.call = .turn thread ∧ ∃ wait ending looked,
      moment.host.glimpse thread = some (wait, ending, looked) ∧ wait.purpose = .start ∧
        moment.host.waits.get? thread = some wait := by
  obtain ⟨host, call⟩ := moment
  cases call with
  | turn other =>
    simp only [Moment.passesGate, Bool.and_eq_true, decide_eq_true_eq, Option.any_eq_true] at passes
    obtain ⟨rfl, ⟨wait, ending, looked⟩, seen, purpose⟩ := passes
    exact ⟨rfl, wait, ending, looked, seen, purpose, (attempt_of_glimpse seen).1⟩
  | _ => cases passes

/-- A thread that waits for its start did so before, and did not pass its gate. -/
theorem AtGate.of_begin (orderly : host.Orderly) (known : thread.value < host.nextThread)
    (gated : (host.begin call).AtGate thread) :
    host.AtGate thread ∧ Moment.passesGate thread ⟨host, call⟩ = false := by
  obtain ⟨wait, found, purpose⟩ := gated
  have through := fares orderly call thread
  rw [found] at through
  rcases through.of_start purpose with ⟨before, there, starts, _, unseen⟩ | ⟨_, new, _⟩
  · refine ⟨⟨before, there, starts⟩, Bool.eq_false_iff.2 fun passes => ?_⟩
    obtain ⟨turn, _, _, _, seen, _⟩ := atGate_of_passesGate passes
    cases seen.symm.trans (unseen turn)
  · exact absurd new (ne_next_of_known known)

theorem AtGate.of_rouse {woken : ThreadId → Wait → Bool}
    (gated : (host.rouse woken).AtGate thread) : host.AtGate thread := by
  obtain ⟨wait, found, purpose⟩ := gated
  rw [get?_rouse] at found
  obtain ⟨before, there, rfl⟩ := Option.map_eq_some_iff.1 found
  refine ⟨before, there, ?_⟩
  split at purpose
  · exact (purpose_wake before) ▸ purpose
  · exact purpose

/-- A thread passes its gate once at most, and not while it waits there. -/
theorem passes_of_course (orderly : start.Orderly) (numbered : start.roster.Numbered)
    (known : thread.value < start.nextThread) (course : Course start moments last) :
    moments.countP (Moment.passesGate thread) ≤ 1 ∧
      (last.AtGate thread → moments.countP (Moment.passesGate thread) = 0) := by
  let holds : List Moment → Host → Prop := fun past host =>
    host.roster.Numbered ∧ thread.value < host.nextThread ∧
      past.countP (Moment.passesGate thread) ≤ 1 ∧
      (host.AtGate thread → past.countP (Moment.passesGate thread) = 0)
  have kept : holds moments last := by
    refine @Course.induction _ _ _ holds (fun _ => True) course orderly (fun _ _ => trivial)
      ⟨numbered, known, by simp⟩ ?_
    rintro past _ host after next orderly _ ⟨numbered, known, once, before⟩
    cases next with
    | began call accepted =>
      have more := (host.handled call).numbered numbered
      refine ⟨more.1, Nat.lt_of_lt_of_le known more.2, ?_⟩
      have from_gate := @AtGate.of_begin host call thread orderly known
      rw [List.countP_append, List.countP_singleton]
      cases passes : Moment.passesGate thread ⟨host, call⟩ with
      | true =>
        obtain ⟨_, wait, _, _, _, purpose, found⟩ := atGate_of_passesGate passes
        rw [before ⟨wait, found, purpose⟩]
        exact ⟨Nat.le_refl _, fun gated => absurd passes (by simp [(from_gate gated).2])⟩
      | false => exact ⟨once, fun gated => before (from_gate gated).1⟩
    | roused woken =>
      rw [List.append_nil]
      exact ⟨numbered, known, once, fun gated => before gated.of_rouse⟩
    | respun =>
      rw [List.append_nil]
      exact ⟨numbered, known, once, before⟩
  exact kept.2.2

/-- Who gets past its gate found it open, or cancelled. -/
theorem outcome_of_glimpse {wait : Wait} {ending : Ending} {looked : Host}
    (seen : host.glimpse thread = some (wait, ending, looked)) (awaits : wait.AwaitsStart thread) :
    (host.control thread).gate = .running ∧ ending.outcome = .signaled ∨
      (host.control thread).gate = .cancelled ∧ ending.outcome = .abandoned := by
  obtain ⟨_, _, made⟩ := attempt_of_glimpse seen
  have same : (host.away thread).control thread = host.control thread := rfl
  have calm : wait.options.alertable = false := by rw [awaits.options]
  unfold attempt look at made
  rw [awaits.target, calm, Bool.and_false, Bool.false_and, if_neg Bool.false_ne_true] at made
  cases gate : (host.control thread).gate with
  | suspended => simp [take?, same, gate, Wait.isDue, awaits.deadline] at made
  | running =>
    simp only [take?, same, gate] at made
    cases made
    exact .inl ⟨rfl, rfl⟩
  | cancelled =>
    simp only [take?, same, gate] at made
    cases made
    exact .inr ⟨rfl, rfl⟩

/-- A thread that learns at its gate that it will not run begins to end. -/
theorem Handled.leaving_of_start (handled : Handled host (.turn thread) after) {wait : Wait}
    {ending : Ending} {looked : Host} (seen : host.glimpse thread = some (wait, ending, looked))
    (purpose : wait.purpose = .start) :
    after.leaving.get? thread =
      if ending.outcome = .abandoned then some .unbinding else host.leaving.get? thread := by
  cases handled with
  | spared spares => cases spares
  | asked asks => cases asks
  | interrupted other outcome =>
    cases seen.symm.trans other
    rw [outcome]
    rfl
  | dismissed other _ outcome =>
    cases seen.symm.trans other
    rw [if_pos outcome]
    exact Assoc.get?_insert_self ..
  | turned otherwise =>
    rw [if_neg ((otherwise wait ending looked seen).2 purpose)]
    rfl

/-- A thread passes its gate to run its routine if its task was started first, and to end
otherwise. -/
theorem Lives.passes (lives : Lives serial thread moments moment.host.roster)
    (gated : moment.host.Gated) (passes : moment.passesGate thread = true) :
    (startedFirst serial thread moments = true ∨ wasRemoved thread moments = true) ∧
      moment.runsRoutine thread = startedFirst serial thread moments ∧
      moment.after.leaving.get? thread =
        if startedFirst serial thread moments then moment.host.leaving.get? thread
        else some .unbinding := by
  obtain ⟨turn, wait, ending, looked, seen, purpose, found⟩ := atGate_of_passesGate passes
  have gate : (moment.host.control thread).gate = gateAfter serial thread moments := lives.gate
  have runs : moment.runsRoutine thread = decide (ending.outcome = .signaled) := by
    simp [Moment.runsRoutine, passes, seen]
  have handled := moment.host.handled moment.call
  rw [turn] at handled
  have left := handled.leaving_of_start seen purpose
  have same : moment.after.leaving = (moment.host.begin (.turn thread)).roster.leaving := by
    rw [← turn]
    rfl
  rw [same, left, runs]
  unfold gateAfter at gate
  rcases outcome_of_glimpse seen (gated thread wait found purpose) with
    ⟨running, outcome⟩ | ⟨cancelled, outcome⟩
  · have started : startedFirst serial thread moments = true := by
      by_contra other
      rw [if_neg other, running] at gate
      split at gate <;> cases gate
    simp [started, outcome]
  · have other : startedFirst serial thread moments = false := by
      by_contra started
      rw [if_pos (by simpa using started), cancelled] at gate
      cases gate
    have gone : wasRemoved thread moments = true := by
      by_contra stays
      rw [other, if_neg Bool.false_ne_true, if_neg stays, cancelled] at gate
      cases gate
    simp [other, gone, outcome]

/-- A host on which a task was just created for a thread. -/
structure Newborn (serial : Nat) (thread : ThreadId) (host : Host) : Prop where
  orderly : host.Orderly
  gated : host.Gated
  numbered : host.roster.Numbered
  registered : Registered host.roster
  lives : Lives serial thread [] host.roster

namespace Newborn

variable {config : Config} {opened : String → Except Error Trace.Sink} {earlier : List Moment}
  {parent : ThreadId}

theorem create (made : Host.create config opened = .ok start)
    (before : Course start earlier host) (apt : ∀ moment ∈ earlier, moment.isApt = true)
    (created : (host.createTask parent).1 = .ok serial) :
    Newborn serial ⟨host.nextThread⟩ (host.begin (.createTask parent)) := by
  have fresh := numbered_of_create made
  obtain ⟨numbered, more⟩ := before.numbering fresh
  have first : 0 < host.nextThread := by
    have one : start.roster.nextThread = 1 := by rw [roster_of_create made]
    exact Nat.lt_of_lt_of_le Nat.one_pos (Nat.le_trans (Nat.le_of_eq one.symm) more)
  have registered := (Registered.create made).course fresh before apt
  have orderly := before.orderly (.create made)
  have next : Next host [⟨host, .createTask parent⟩] (host.begin (.createTask parent)) :=
    .began _ rfl
  have handled := host.handled (.createTask parent)
  exact ⟨next.orderly orderly, ((Gated.create made).course (.create made) before).next orderly next,
    (handled.numbered numbered).1, registered.handled handled numbered rfl,
    .create registered first created⟩

theorem course (newborn : Newborn serial thread host) (onward : Course host moments last)
    (apt : ∀ moment ∈ moments, moment.isApt = true) : Lives serial thread moments last.roster :=
  newborn.lives.course newborn.registered newborn.numbered onward apt

/-- The thread gets past its gate the way that the first start or removal of its task decided. -/
theorem passes {early late : List Moment} (newborn : Newborn serial thread host)
    (onward : Course host (early ++ moment :: late) last)
    (apt : ∀ other ∈ early ++ moment :: late, other.isApt = true)
    (through : moment.passesGate thread = true) :
    moment.runsRoutine thread = startedFirst serial thread (early ++ moment :: late) ∧
      (moment.runsRoutine thread = false → moment.after.leaving.get? thread = some .unbinding) := by
  obtain ⟨led, _⟩ := onward.cut
  have lives := newborn.course led fun other inside => apt other (List.mem_append_left _ inside)
  obtain ⟨settled, runs, left⟩ := lives.passes (newborn.gated.course newborn.orderly led) through
  refine ⟨runs.trans (startedFirst_of_settled settled).symm, fun rests => ?_⟩
  rw [left, ← runs, rests, if_neg Bool.false_ne_true]

end Newborn

variable {config : Config} {opened : String → Except Error Trace.Sink} {earlier : List Moment}
  {parent : ThreadId}

/-- A task that was created is first seen as created, then as running once it was started, and as
removed once it was removed. It can be started while it was not removed. Its thread runs its routine
at most once, and, when it gets past its gate, just when a start came before the first removal; if
none did, the thread begins to end. -/
theorem taskState_eq_stateAfter (made : Host.create config opened = .ok start)
    (before : Course start earlier host) (created : (host.createTask parent).1 = .ok serial)
    (course : Course (host.begin (.createTask parent)) moments last)
    (own : ((host.begin (.createTask parent)).task serial).thread = thread)
    (apt : ∀ moment ∈ earlier ++ moments, moment.isApt = true) :
    last.taskState serial = stateAfter serial thread moments ∧
    (∀ more after, Course last more after → (∀ moment ∈ more, moment.isApt = true) →
      (last.taskState serial).rank ≤ (after.taskState serial).rank) ∧
    ((last.startTask serial).1 =
      if last.taskState serial = .removed then .error (.taskNotFound thread) else .ok ()) ∧
    moments.countP (Moment.runsRoutine thread) ≤ 1 ∧
    (moments.any (Moment.passesGate thread) = true →
      moments.any (Moment.runsRoutine thread) = startedFirst serial thread moments) ∧
    ∀ moment ∈ moments, moment.passesGate thread = true →
      moment.runsRoutine thread = false → moment.after.leaving.get? thread = some .unbinding := by
  have led : ∀ moment ∈ earlier, moment.isApt = true := fun moment inside =>
    apt moment (List.mem_append_left _ inside)
  have fit : ∀ moment ∈ moments, moment.isApt = true := fun moment inside =>
    apt moment (List.mem_append_right _ inside)
  have newborn : Newborn serial thread (host.begin (.createTask parent)) := by
    have newborn := Newborn.create made before led created
    rwa [← newborn.lives.home, own] at newborn
  have lives := newborn.course course fit
  refine ⟨lives.taskState, fun more after onward later => ?_, ?_, ?_, fun through => ?_,
    fun moment inside through => ?_⟩
  · have ahead := newborn.course (course.append onward) fun moment inside =>
      (List.mem_append.1 inside).elim (fit moment) (later moment)
    rw [lives.taskState, ahead.taskState]
    exact rank_stateAfter_append
  · rw [lives.startTask, lives.taskState]
    unfold stateAfter
    cases wasRemoved thread moments <;> cases startedFirst serial thread moments <;> rfl
  · have passes := passes_of_course newborn.orderly newborn.numbered newborn.lives.numbered course
    refine Nat.le_trans (List.countP_mono_left fun moment _ runs => ?_) passes.1
    exact Moment.passesGate_of_runsRoutine runs
  · -- Whether a start came first shows at the moment at which the thread gets past its gate.
    obtain ⟨moment, inside, passed⟩ := List.any_eq_true.1 through
    obtain ⟨early, late, rfl⟩ := List.append_of_mem inside
    have runs := (newborn.passes course fit passed).1
    cases first : startedFirst serial thread (early ++ moment :: late) with
    | true => exact List.any_eq_true.2 ⟨moment, inside, runs.trans first⟩
    | false =>
      refine List.any_eq_false.2 fun other there runs => ?_
      obtain ⟨early, late, split⟩ := List.append_of_mem there
      rw [split] at course fit first
      have again := (newborn.passes course fit (Moment.passesGate_of_runsRoutine runs)).1
      rw [runs, first] at again
      cases again
  · obtain ⟨early, late, rfl⟩ := List.append_of_mem inside
    exact (newborn.passes course fit through).2

/-- A task is created besides another, started twice, runs, and is removed; then it is too late for
a start. -/
def startedTask : List Call :=
  [.createTask ⟨1⟩, .startTask 0, .startTask 0, .turn ⟨3⟩, .removeTask ⟨3⟩, .turn ⟨2⟩,
    .removeTask ⟨2⟩, .startTask 0]

theorem taskState_eq_stateAfter_startedTask :
    ∃ start, Host.create {} (fun _ => .ok (.memory 0 [])) = .ok start ∧
      ∃ moments, Course ((start.heed .spawn).begin (.createTask ⟨1⟩)) moments
          (((start.heed .spawn).begin (.createTask ⟨1⟩)).heedAll startedTask) ∧
        moments.any (Moment.runsRoutine ⟨2⟩) = true ∧
        ((((start.heed .spawn).begin (.createTask ⟨1⟩)).heedAll startedTask).startTask 0).1 =
          .error (.taskNotFound ⟨2⟩) := by
  have orderly := @Orderly.create {} (fun _ => .ok (.memory 0 [])) _ rfl
  have before := Course.heedAll .start orderly (show acceptsAll _ [.spawn] = true from rfl)
  have begun := (before.call (.createTask ⟨1⟩) rfl).orderly orderly
  have course := Course.heedAll .start begun (show acceptsAll _ startedTask = true from rfl)
  obtain ⟨state, _, starts, _, runs, _⟩ :=
    @taskState_eq_stateAfter _ _ _ _ ⟨2⟩ 0 {} (fun _ => .ok (.memory 0 [])) _ ⟨1⟩ rfl before
      (by decide +kernel) course (by decide +kernel) (by decide +kernel)
  exact ⟨_, rfl, _, course, (runs (by decide +kernel)).trans (by decide +kernel),
    starts.trans (if_pos (state.trans (by decide +kernel)))⟩

end Steward.Host
