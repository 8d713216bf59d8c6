import Steward.Proofs.Host.Course

/-! The table of tasks lists each task that was not removed, and nothing else. A thread is known to
the table by one task at a time; a removed task has no number of the runtime and gets none. That is
so of whole calls: a task that is removed in the middle of a call that gives it a number keeps the
number. -/

set_option autoImplicit false

namespace Steward.Tasks.Table

variable {table after : Table} {thread : ThreadId} {serial : Nat} {task : Task}

/-- The tasks that were not removed are those that are listed, each under its thread. -/
structure Listed (table : Table) : Prop where
  fresh : ∀ serial task, table.tasks.get? serial = some task → serial < table.made
  live : ∀ thread serial, table.live.get? thread = some serial →
    ∃ task, table.tasks.get? serial = some task ∧ task.thread = thread ∧ task.removed = false
  listed : ∀ serial task, table.tasks.get? serial = some task → task.removed = false →
    table.live.get? task.thread = some serial
  managed : ∀ thread, table.managed.contains thread = true → table.live.contains thread = true
  bare : ∀ serial task, table.tasks.get? serial = some task → task.removed = true →
    task.logical = none

theorem get?_remove (table : Table) (thread : ThreadId) (serial : Nat) :
    (table.remove thread).2.tasks.get? serial = (table.tasks.get? serial).map fun task =>
      if table.live.get? thread = some serial then { task with removed := true, logical := none }
      else task := by
  unfold Table.remove
  cases listed : table.live.get? thread with
  | none => simp
  | some other => simp [Assoc.get?_modify, eq_comm]

@[simp] theorem live_remove (table : Table) (thread : ThreadId) :
    (table.remove thread).2.live = table.live.erase thread := by
  unfold Table.remove
  split <;> rfl

@[simp] theorem managed_remove (table : Table) (thread : ThreadId) :
    (table.remove thread).2.managed = table.managed.erase thread := by
  unfold Table.remove
  split <;> rfl

@[simp] theorem made_remove (table : Table) (thread : ThreadId) :
    (table.remove thread).2.made = table.made := by
  unfold Table.remove
  split <;> rfl

theorem storeLogical_of_found (found : table.tasks.get? serial = some task) (number : Nat) :
    table.storeLogical serial number =
      { table with tasks := table.tasks.insert serial { task with logical := some number } } := by
  simp only [storeLogical, found]

theorem setLogical_eq_ok {number : Nat} (made : table.setLogical serial number = .ok after) :
    after = table ∨ ∃ task, table.tasks.get? serial = some task ∧ task.removed = false ∧
      after = { table with tasks := table.tasks.insert serial { task with logical := some number }
                }.addManaged task.thread number := by
  unfold setLogical at made
  split at made
  · cases made
    exact .inl rfl
  · next task found =>
    split at made
    · cases made
    · next stays =>
      cases made
      exact .inr ⟨task, found, by simpa using stays, by rw [storeLogical_of_found found]⟩

theorem setLogical_of_removed (found : table.tasks.get? serial = some task)
    (gone : task.removed = true) (number : Nat) :
    table.setLogical serial number = .error (.taskNotFound task.thread) := by
  simp [setLogical, found, gone]

namespace Listed

theorem empty : Listed {} := ⟨nofun, nofun, nofun, nofun, nofun⟩

theorem add (listed : table.Listed) (absent : table.live.get? thread = none) :
    (table.add thread).2.Listed := by
  have known : ∀ serial task, (table.add thread).2.tasks.get? serial = some task →
      (serial = table.made ∧ task = { thread }) ∨ table.tasks.get? serial = some task := by
    intro serial task found
    simp only [Table.add, Assoc.get?_insert] at found
    split at found
    · next new => exact .inl ⟨new, (Option.some.inj found).symm⟩
    · exact .inr found
  have lives : ∀ other, (table.add thread).2.live.get? other =
      if other = thread then some table.made else table.live.get? other := fun _ =>
    Assoc.get?_insert ..
  have kept : ∀ serial task, table.tasks.get? serial = some task →
      (table.add thread).2.tasks.get? serial = some task := by
    intro serial task found
    have old : serial ≠ table.made := Nat.ne_of_lt (listed.fresh serial task found)
    simp [Table.add, old, found]
  refine ⟨fun serial task found => ?_, fun other serial found => ?_,
    fun serial task found stays => ?_, fun other there => ?_, fun serial task found gone => ?_⟩
  · rcases known serial task found with ⟨rfl, _⟩ | before
    · exact Nat.lt_succ_self _
    · exact Nat.lt_succ_of_lt (listed.fresh serial task before)
  · rw [lives] at found
    split at found
    · next same =>
      cases found
      exact ⟨{ thread }, Assoc.get?_insert_self .., same.symm, rfl⟩
    · obtain ⟨task, before, home, stays⟩ := listed.live other serial found
      exact ⟨task, kept serial task before, home, stays⟩
  · rcases known serial task found with ⟨rfl, rfl⟩ | before
    · exact Assoc.get?_insert_self ..
    · have there := listed.listed serial task before stays
      have apart : task.thread ≠ thread := by
        rintro rfl
        rw [absent] at there
        cases there
      rw [lives, if_neg apart, there]
  · have before := listed.managed other there
    rw [Assoc.contains, lives]
    split
    · rfl
    · exact before
  · rcases known serial task found with ⟨rfl, rfl⟩ | before
    · cases gone
    · exact listed.bare serial task before gone

theorem find (listed : table.Listed) (thread : ThreadId) : (table.find thread).2.Listed := by
  unfold Table.find
  split
  · exact listed
  · next absent => exact listed.add absent

theorem addManaged (listed : table.Listed) (there : table.live.contains thread = true)
    (number : Nat) : (table.addManaged thread number).Listed := by
  refine ⟨listed.fresh, listed.live, listed.listed, fun other noted => ?_, listed.bare⟩
  rw [Table.addManaged, Assoc.contains_insert, Bool.or_eq_true, decide_eq_true_eq] at noted
  rcases noted with rfl | before
  · exact there
  · exact listed.managed other before

theorem remove (listed : table.Listed) (thread : ThreadId) : (table.remove thread).2.Listed := by
  refine ⟨fun serial task found => ?_, fun other serial found => ?_,
    fun serial task found stays => ?_, fun other there => ?_, fun serial task found gone => ?_⟩
  · rw [get?_remove, Option.map_eq_some_iff] at found
    obtain ⟨before, there, _⟩ := found
    rw [made_remove]
    exact listed.fresh serial before there
  · rw [live_remove, Assoc.get?_erase] at found
    split at found
    · cases found
    · next apart =>
      obtain ⟨task, there, home, stays⟩ := listed.live other serial found
      refine ⟨task, ?_, home, stays⟩
      -- Another thread's task is not the one that is removed.
      have spared : table.live.get? thread ≠ some serial := by
        intro own
        obtain ⟨same, again, owner, _⟩ := listed.live thread serial own
        cases there.symm.trans again
        exact apart (home.symm.trans owner)
      rw [get?_remove, there, Option.map_some, if_neg spared]
  · rw [get?_remove, Option.map_eq_some_iff] at found
    obtain ⟨before, there, same⟩ := found
    split at same
    · rw [← same] at stays
      cases stays
    · next spared =>
      subst same
      have lives := listed.listed serial before there stays
      have apart : before.thread ≠ thread := fun same => spared (same ▸ lives)
      rw [live_remove, Assoc.get?_erase_of_ne _ apart, lives]
  · rw [managed_remove, Assoc.contains, Assoc.get?_erase] at there
    rw [live_remove, Assoc.contains, Assoc.get?_erase]
    split at there
    · cases there
    · next apart =>
      rw [if_neg apart]
      exact listed.managed other there
  · rw [get?_remove, Option.map_eq_some_iff] at found
    obtain ⟨before, there, same⟩ := found
    split at same
    · rw [← same]
    · exact same ▸ listed.bare serial before there (same ▸ gone)

theorem setLogical (listed : table.Listed) {number : Nat}
    (made : table.setLogical serial number = .ok after) : after.Listed := by
  rcases setLogical_eq_ok made with rfl | ⟨task, there, stays, rfl⟩
  · exact listed
  · have lives := listed.listed serial task there stays
    refine Listed.addManaged ?_ (by simp [Assoc.contains, lives]) number
    refine ⟨fun other found inside => ?_, fun other place inside => ?_,
      fun other found inside left => ?_, listed.managed, fun other found inside gone => ?_⟩
    · rw [Assoc.get?_insert] at inside
      split at inside
      · next same => exact same ▸ listed.fresh serial task there
      · exact listed.fresh other found inside
    · obtain ⟨known, before, home, left⟩ := listed.live other place inside
      by_cases same : place = serial
      · subst same
        cases there.symm.trans before
        exact ⟨_, Assoc.get?_insert_self .., home, left⟩
      · exact ⟨known, by simp [same, before], home, left⟩
    · rw [Assoc.get?_insert] at inside
      split at inside
      · next same =>
        cases inside
        exact same ▸ lives
      · exact listed.listed other found inside left
    · rw [Assoc.get?_insert] at inside
      split at inside
      · cases inside
        rw [stays] at gone
        cases gone
      · exact listed.bare other found inside gone

end Listed

/-- A task that is removed after a call looked at it gets the number all the same, and the table
keeps the number of a thread that is not listed. -/
theorem not_listed_of_overlap (listed : table.Listed) (lives : table.live.get? thread = some serial)
    (number : Nat) : (∃ after, table.setLogical serial number = .ok after) ∧
      ¬(((table.remove thread).2.storeLogical serial number).addManaged thread number).Listed := by
  obtain ⟨task, found, rfl, stays⟩ := listed.live thread serial lives
  constructor
  · refine ⟨(table.storeLogical serial number).addManaged task.thread number, ?_⟩
    simp only [setLogical, found, stays, Bool.false_eq_true, if_false]
  · intro late
    have there : (table.remove task.thread).2.tasks.get? serial =
        some { task with removed := true, logical := none } := by
      rw [get?_remove, found, Option.map_some, if_pos lives]
    have bare := late.bare serial { task with removed := true, logical := some number }
    rw [storeLogical_of_found there] at bare
    cases bare (Assoc.get?_insert_self ..) rfl

/-- A removed task stays as it is, whatever is done to the table. -/
structure Gone (table : Table) (serial : Nat) (task : Task) : Prop where
  found : table.tasks.get? serial = some task
  removed : task.removed = true
  logical : task.logical = none

namespace Gone

theorem add (gone : table.Gone serial task) (fresh : serial < table.made) (thread : ThreadId) :
    (table.add thread).2.Gone serial task := by
  refine ⟨?_, gone.removed, gone.logical⟩
  simp [Table.add, Nat.ne_of_lt fresh, gone.found]

theorem find (gone : table.Gone serial task) (fresh : serial < table.made) (thread : ThreadId) :
    (table.find thread).2.Gone serial task := by
  unfold Table.find
  split
  · exact gone
  · exact gone.add fresh thread

theorem remove (gone : table.Gone serial task) (thread : ThreadId) :
    (table.remove thread).2.Gone serial task := by
  refine ⟨?_, gone.removed, gone.logical⟩
  have same : { task with removed := true, logical := none } = task := by
    rw [← gone.removed, ← gone.logical]
  rw [get?_remove, gone.found, Option.map_some, same, ite_self]

theorem setLogical (gone : table.Gone serial task) {other number : Nat}
    (made : table.setLogical other number = .ok after) : after.Gone serial task := by
  rcases setLogical_eq_ok made with rfl | ⟨told, there, stays, rfl⟩
  · exact gone
  · have apart : serial ≠ other := by
      rintro rfl
      cases there.symm.trans gone.found
      rw [gone.removed] at stays
      cases stays
    refine ⟨?_, gone.removed, gone.logical⟩
    simp [addManaged, apart, gone.found]

end Gone

end Steward.Tasks.Table

namespace Steward.Host

open Tasks

variable {start host last : Host} {moments more : List Moment} {moment : Moment} {call : Call}
  {thread : ThreadId} {serial : Nat} {task : Task} {roster after : Roster}

/-- A call asks for the task of a thread that has a number, or notes the runtime's number for one
that has a task. -/
def Moment.isApt (moment : Moment) : Bool :=
  match moment.call with
  | .currentTask thread => decide (thread.value < moment.host.nextThread)
  | .addManaged thread _ => moment.host.tasks.live.contains thread
  | _ => true

/-- The task of a thread is removed: on request, or by the thread itself when it ends. -/
def Moment.removes (thread : ThreadId) (moment : Moment) : Bool :=
  match moment.call with
  | .removeTask other => decide (other = thread)
  | .depart other =>
      decide (other = thread ∧ moment.host.leaving.get? other = some .unlisting)
  | _ => false

/-- What a call does to the table of tasks. -/
inductive Tabled (host : Host) : Call → Table → Prop where
  | same {call : Call} (spares : ∀ thread, Moment.removes thread ⟨host, call⟩ = false) :
      Tabled host call host.tasks
  | added {parent : ThreadId} (made : (host.createTask parent).1 = .ok host.tasks.made) :
      Tabled host (.createTask parent) (host.tasks.add ⟨host.nextThread⟩).2
  | found (thread : ThreadId) : Tabled host (.currentTask thread) (host.tasks.find thread).2
  | told {serial number : Nat} {tasks : Table}
      (made : host.tasks.setLogical serial number = .ok tasks) :
      Tabled host (.setLogical serial number) tasks
  | noted (thread : ThreadId) (number : Nat) :
      Tabled host (.addManaged thread number) (host.tasks.addManaged thread number)
  | removed {call : Call} {thread : ThreadId}
      (removes : ∀ other, Moment.removes other ⟨host, call⟩ = decide (thread = other)) :
      Tabled host call (host.tasks.remove thread).2

theorem Handled.tabled (handled : Handled host call after) : Tabled host call after.tasks := by
  cases handled with
  | spared spares =>
    refine .same fun thread => ?_
    cases call <;> first | rfl | cases spares
  | asked asks =>
    refine .same fun thread => ?_
    cases call <;> first | rfl | cases asks
  | created made => exact .added made
  | found thread => exact .found thread
  | told made => exact .told made
  | noted thread number => exact .noted thread number
  | removed thread =>
    rw [Roster.tasks_unlist]
    exact .removed fun _ => rfl
  | @unlisted thread stage =>
    have same : ((host.roster.unlist thread).stage thread .marking).tasks =
        (host.tasks.remove thread).2 := Roster.tasks_unlist host.roster thread
    rw [same]
    exact .removed fun other => by simp [Moment.removes, stage]
  | started =>
    rw [Roster.tasks_regate]
    exact .same fun _ => rfl
  | spawned | refused | ranked | alerted | ended | interrupted | dismissed | turned =>
    exact .same fun _ => rfl
  | stayed stage | unbound stage | closed stage =>
    exact .same fun other => by simp [Moment.removes, stage]

theorem get?_add (found : (host.tasks.add thread).2.tasks.get? serial = some task) :
    host.tasks.tasks.get? serial = some task ∨ task.thread = thread := by
  simp only [Table.add, Assoc.get?_insert] at found
  split at found
  · cases found
    exact .inr rfl
  · exact .inl found

/-- A task was there before, for the same thread, or its thread is new, or had none. -/
theorem Tabled.origin {tasks : Table} (tabled : Tabled host call tasks)
    (found : tasks.tasks.get? serial = some task) :
    (∃ before, host.tasks.tasks.get? serial = some before ∧ before.thread = task.thread) ∨
      ((∃ parent, call = .createTask parent) ∧ task.thread = ⟨host.nextThread⟩) ∨
      (call = .currentTask task.thread ∧ host.tasks.live.get? task.thread = none) := by
  cases tabled with
  | same | noted => exact .inl ⟨task, found, rfl⟩
  | added =>
    rcases get?_add found with before | new
    · exact .inl ⟨task, before, rfl⟩
    · exact .inr (.inl ⟨⟨_, rfl⟩, new⟩)
  | found thread =>
    unfold Table.find at found
    split at found
    · exact .inl ⟨task, found, rfl⟩
    · next absent =>
      rcases get?_add found with before | rfl
      · exact .inl ⟨task, before, rfl⟩
      · exact .inr (.inr ⟨rfl, absent⟩)
  | told made =>
    rcases Table.setLogical_eq_ok made with rfl | ⟨known, there, _, rfl⟩
    · exact .inl ⟨task, found, rfl⟩
    · simp only [Table.addManaged, Assoc.get?_insert] at found
      split at found
      · next same =>
        cases found
        exact .inl ⟨known, same ▸ there, rfl⟩
      · exact .inl ⟨task, found, rfl⟩
  | removed =>
    rw [Table.get?_remove, Option.map_eq_some_iff] at found
    obtain ⟨before, there, rfl⟩ := found
    refine .inl ⟨before, there, ?_⟩
    split <;> rfl

theorem Handled.nextThread_of_createTask {parent : ThreadId}
    (handled : Handled host (.createTask parent) after) :
    after.nextThread = host.nextThread + 1 := by
  cases handled with
  | refused | created => rfl
  | asked asks => cases asks
  | spared spares => cases spares

/-- A roster on which tasks are listed, for threads that have numbers. -/
structure Registered (roster : Roster) : Prop where
  listed : roster.tasks.Listed
  numbered : ∀ serial task, roster.tasks.tasks.get? serial = some task →
    task.thread.value < roster.nextThread

namespace Registered

theorem create {config : Config} {opened : String → Except Error Trace.Sink}
    (made : Host.create config opened = .ok start) : Registered start.roster := by
  rw [roster_of_create made]
  exact ⟨.empty, nofun⟩

/-- A thread that has no number yet has no task. -/
theorem unlisted (registered : Registered host.roster) :
    host.tasks.live.get? ⟨host.nextThread⟩ = none := by
  cases found : host.tasks.live.get? ⟨host.nextThread⟩ with
  | none => rfl
  | some serial =>
    obtain ⟨task, there, home, _⟩ := registered.listed.live _ serial found
    exact absurd home (ne_next_of_known (registered.numbered serial task there))

theorem listed_of_tabled (registered : Registered host.roster) {tasks : Table}
    (tabled : Tabled host call tasks) (apt : Moment.isApt ⟨host, call⟩ = true) : tasks.Listed := by
  have listed : host.tasks.Listed := registered.listed
  cases tabled with
  | same => exact listed
  | added => exact listed.add registered.unlisted
  | found thread => exact listed.find thread
  | told made => exact listed.setLogical made
  | noted thread number => exact listed.addManaged apt number
  | removed => exact listed.remove _

theorem handled (registered : Registered host.roster) (handled : Handled host call after)
    (numbered : host.roster.Numbered) (apt : Moment.isApt ⟨host, call⟩ = true) :
    Registered after := by
  refine ⟨registered.listed_of_tabled handled.tabled apt, fun serial task found => ?_⟩
  have more := (handled.numbered numbered).2
  rcases handled.tabled.origin found with ⟨before, there, same⟩ | ⟨⟨parent, rfl⟩, new⟩ | ⟨rfl, _⟩
  · exact same ▸ Nat.lt_of_lt_of_le (registered.numbered serial before there) more
  · rw [new, handled.nextThread_of_createTask]
    exact Nat.lt_succ_self _
  · have known : task.thread.value < host.nextThread := by simpa [Moment.isApt] using apt
    exact Nat.lt_of_lt_of_le known more

theorem course (registered : Registered start.roster) (numbered : start.roster.Numbered)
    (course : Course start moments last) (apt : ∀ moment ∈ moments, moment.isApt = true) :
    Registered last.roster := by
  let holds : List Moment → Roster → Prop := fun _ roster => roster.Numbered ∧ Registered roster
  have kept : holds moments last.roster :=
    @Course.roster_induction _ _ _ holds _ course apt ⟨numbered, registered⟩
      fun _ moment apt ⟨numbered, registered⟩ =>
        have handled := moment.host.handled moment.call
        ⟨(handled.numbered numbered).1, registered.handled handled numbered apt⟩
  exact kept.2

end Registered

theorem Tabled.gone {tasks : Table} (tabled : Tabled host call tasks) (listed : host.tasks.Listed)
    (gone : host.tasks.Gone serial task) : tasks.Gone serial task := by
  have fresh := listed.fresh serial task gone.found
  cases tabled with
  | same => exact gone
  | added => exact gone.add fresh _
  | found thread => exact gone.find fresh thread
  | told made => exact gone.setLogical made
  | noted => exact ⟨gone.found, gone.removed, gone.logical⟩
  | removed => exact gone.remove _

theorem gone_of_course (registered : Registered start.roster) (numbered : start.roster.Numbered)
    (course : Course start moments last) (apt : ∀ moment ∈ moments, moment.isApt = true)
    (gone : start.tasks.Gone serial task) : last.tasks.Gone serial task := by
  let holds : List Moment → Roster → Prop := fun _ roster =>
    roster.Numbered ∧ Registered roster ∧ roster.tasks.Gone serial task
  have kept : holds moments last.roster :=
    @Course.roster_induction _ _ _ holds _ course apt ⟨numbered, registered, gone⟩
      fun _ moment apt ⟨numbered, registered, gone⟩ =>
        have handled := moment.host.handled moment.call
        ⟨(handled.numbered numbered).1, registered.handled handled numbered apt,
          handled.tabled.gone registered.listed gone⟩
  exact kept.2.2

theorem task_eq_of_found (found : host.tasks.tasks.get? serial = some task) :
    host.task serial = task := by
  simp [Host.task, Assoc.getD, found]

theorem taskState_eq_removed_iff (found : host.tasks.tasks.get? serial = some task) :
    host.taskState serial = .removed ↔ task.removed = true := by
  rw [taskState, task_eq_of_found found, Task.state]
  cases task.removed with
  | true => simp
  | false => simp only [Bool.false_eq_true, if_false]; split <;> simp

variable {config : Config} {opened : String → Except Error Trace.Sink}

/-- Whatever is done with threads and with tasks old and new, each call taken whole, a task that was
not removed is the one that is listed for its thread, and only such tasks are listed. So no thread
has two of them, and the runtime's numbers belong to threads that are listed. A removed task has no
such number, and neither it nor its number ever changes again. -/
theorem listed_iff_not_removed (made : Host.create config opened = .ok start)
    (course : Course start moments last) (apt : ∀ moment ∈ moments, moment.isApt = true) :
    (∀ serial task, last.tasks.tasks.get? serial = some task →
      (last.taskState serial ≠ .removed ↔ last.tasks.live.get? task.thread = some serial)) ∧
    (∀ thread serial, last.tasks.live.get? thread = some serial →
      ∃ task, last.tasks.tasks.get? serial = some task ∧ task.thread = thread ∧
        last.taskState serial ≠ .removed) ∧
    (∀ first second one other, last.tasks.tasks.get? first = some one →
      last.tasks.tasks.get? second = some other → one.thread = other.thread →
      last.taskState first ≠ .removed → last.taskState second ≠ .removed → first = second) ∧
    (∀ thread number, last.tasks.managed.get? thread = some number →
      (last.tasks.live.get? thread).isSome = true) ∧
    ∀ serial task, last.tasks.tasks.get? serial = some task → last.taskState serial = .removed →
      task.logical = none ∧ ∀ more after, Course last more after →
        (∀ moment ∈ more, moment.isApt = true) →
          after.tasks.tasks.get? serial = some task ∧ after.taskState serial = .removed ∧
            ∀ number, after.tasks.setLogical serial number =
              .error (.taskNotFound task.thread) := by
  have numbered := numbered_of_create made
  have registered := (Registered.create made).course numbered course apt
  have listed : last.tasks.Listed := registered.listed
  have lists : ∀ serial task, last.tasks.tasks.get? serial = some task →
      (last.taskState serial ≠ .removed ↔ last.tasks.live.get? task.thread = some serial) := by
    intro serial task found
    rw [Ne, taskState_eq_removed_iff found, Bool.not_eq_true]
    refine ⟨listed.listed serial task found, fun lives => ?_⟩
    obtain ⟨known, there, _, stays⟩ := listed.live task.thread serial lives
    cases found.symm.trans there
    exact stays
  refine ⟨lists, fun thread serial lives => ?_, ?_, fun thread number noted => ?_,
    fun serial task found removed => ?_⟩
  · obtain ⟨task, found, rfl, _⟩ := listed.live thread serial lives
    exact ⟨task, found, rfl, (lists serial task found).2 lives⟩
  · intro first second one other found there same stays remains
    have lives := (lists first one found).1 stays
    have again := (lists second other there).1 remains
    rw [same] at lives
    exact Option.some.inj (lives.symm.trans again)
  · exact listed.managed thread (by simp [Assoc.contains, noted])
  · have gone : task.removed = true := (taskState_eq_removed_iff found).1 removed
    have bare := listed.bare serial task found gone
    refine ⟨bare, fun more after onward later => ?_⟩
    have kept := gone_of_course registered (course.numbered numbered) onward later
      ⟨found, gone, bare⟩
    exact ⟨kept.found, (taskState_eq_removed_iff kept.found).2 gone,
      fun number => Table.setLogical_of_removed kept.found gone number⟩

end Steward.Host
