import Steward.Proofs.Tasks.Departure
import Steward.Proofs.Host.Register

/-! The priority of a thread. Whoever is in a domain other than the default one can lower it and no
more: it stays below what was stored last by a caller that was free to store anything, whatever the
others ask for and however callers move between domains. -/

set_option autoImplicit false

namespace Steward.Tasks

/-- The numbers that name a level of priority. -/
def levels : List Int := [-15, -2, -1, 0, 1, 2, 15]

theorem Priority.value_mem_levels (priority : Priority) : priority.value ∈ levels := by
  cases priority <;> decide

theorem Priority.exists_of_mem_levels {level : Int} (known : level ∈ levels) :
    ∃ priority : Priority, ofValue? level = some priority ∧ priority.value = level := by
  simp only [levels, List.mem_cons, List.not_mem_nil, or_false] at known
  rcases known with rfl | rfl | rfl | rfl | rfl | rfl | rfl <;> exact ⟨_, rfl, rfl⟩

theorem Priority.ofValue?_of_not_mem {level : Int} (unknown : level ∉ levels) :
    ofValue? level = none := by
  cases found : ofValue? level with
  | none => rfl
  | some priority =>
    have same := ofValue?_eq_some_iff.1 found
    exact absurd (same ▸ priority.value_mem_levels) unknown

end Steward.Tasks

namespace Steward.Domain.Registry

variable {registry after : Registry} {operation : Operation} {thread : ThreadId}

/-- A thread is in a domain, and that is not the default one. -/
def isOutside (registry : Registry) (thread : ThreadId) : Bool :=
  (registry.domainOf? thread).any fun domain =>
    decide (registry.first.map Prod.fst ≠ some domain)

/-- Nobody is in a domain before there is a default one. -/
def Headed (registry : Registry) : Prop :=
  registry.first = none → ∀ thread, registry.bindings.get? thread = none

namespace Headed

/-- Without a default domain nobody counts as outside of it, and then nobody is in any domain. -/
theorem isSnippet (headed : registry.Headed) (thread : ThreadId) :
    registry.isSnippet thread = registry.isOutside thread := by
  unfold Registry.isSnippet isOutside domainOf?
  cases default : registry.first with
  | none => simp [headed default thread]
  | some first =>
    cases registry.bindings.get? thread with
    | none => rfl
    | some domain => simp [eq_comm]

theorem releasePartial (headed : registry.Headed) (site : Site) (bytes : Nat) :
    (registry.releasePartial site bytes).2.Headed := by
  have same : (registry.releasePartial site bytes).2.first = registry.first := by
    unfold Registry.releasePartial
    split <;> rfl
  intro absent thread
  rw [same] at absent
  rw [bindings_releasePartial]
  exact headed absent thread

theorem turn (headed : registry.Headed) (turn : Turn registry operation after) :
    after.Headed := by
  intro absent thread
  have erased : ∀ other, registry.first = none →
      (registry.bindings.erase other).get? thread = none := fun other absent => by
    simp [Assoc.get?_erase, headed absent]
  cases turn with
  | aside | charged | forgotten => exact headed absent thread
  | founded => cases absent
  | acquired child bound | reserved child bound =>
    -- The parent is in a domain, so that there is a default one.
    rw [headed absent] at bound
    cases bound
  | left => exact erased _ absent
  | ended => simp [Registry.drop, Registry.leave, Assoc.get?_filter, erased _ absent]
  | unloaded => simp [Registry.drop, Assoc.get?_filter, headed absent]
  | released site =>
    rw [release_eq_releasePartial] at absent ⊢
    exact headed.releasePartial site _ absent thread
  | credited site bytes => exact headed.releasePartial site bytes absent thread

end Headed

end Steward.Domain.Registry

namespace Steward.Host

theorem Writes.headed {host : Host} {doing : Doing} {after : Domain.Registry}
    (writes : Writes host doing after) (headed : host.registry.Headed) : after.Headed := by
  cases writes with
  | spared | posted | purged | polled => exact headed
  | asked operation => exact headed.turn (host.registry.turn_perform operation)

open Domain Tasks

variable {start host last : Host} {moments more : List Moment} {moment : Moment} {call : Call}
  {thread caller : ThreadId} {serial : Nat} {level initial : Int} {roster after : Roster}

/-- A thread that asks for its task is one that there is. -/
def Moment.isPresent (moment : Moment) : Bool :=
  match moment.call with
  | .currentTask thread => moment.host.controls.contains thread
  | _ => true

/-- The level that a call stores for a thread if its caller is free to store any: the caller is in
no domain, or in the default one. -/
def Moment.freeLevel? (thread : ThreadId) (moment : Moment) : Option Int :=
  match moment.call with
  | .setPriority caller serial level =>
      if (moment.host.tasks.tasks.get? serial).map Task.thread = some thread ∧
          moment.host.registry.isOutside caller = false ∧ level ∈ levels then some level
      else none
  | _ => none

/-- The level that was stored last by a caller that was free to, or the initial one. -/
def lastFree (thread : ThreadId) (initial : Int) (moments : List Moment) : Int :=
  ((moments.filterMap (Moment.freeLevel? thread)).getLast?).getD initial

theorem lastFree_append : lastFree thread initial (moments ++ [moment]) =
    (moment.freeLevel? thread).getD (lastFree thread initial moments) := by
  unfold lastFree
  rw [List.filterMap_append]
  cases free : moment.freeLevel? thread with
  | none => simp [free]
  | some level => simp [free]

/-! ### Threads and their tasks -/

/-- Threads are numbered from one, and something is kept of each. -/
structure Roster.Peopled (roster : Roster) : Prop where
  begun : 0 < roster.nextThread
  kept : ∀ thread, roster.controls.contains thread = true ↔
    0 < thread.value ∧ thread.value < roster.nextThread

namespace Roster.Peopled

theorem numbered (peopled : roster.Peopled) : roster.Numbered := fun thread there =>
  ((peopled.kept thread).1 there).2

theorem number (peopled : roster.Peopled) (control : Control) :
    (roster.number control).Peopled := by
  refine ⟨Nat.succ_pos _, fun ⟨value⟩ => ?_⟩
  have begun := peopled.begun
  rw [Roster.number, Assoc.contains_insert, Bool.or_eq_true, decide_eq_true_eq, peopled.kept]
  simp only [ThreadId.mk.injEq]
  omega

theorem of_same (peopled : roster.Peopled) (next : after.nextThread = roster.nextThread)
    (same : ∀ thread, after.controls.contains thread = roster.controls.contains thread) :
    after.Peopled := by
  refine ⟨next ▸ peopled.begun, fun thread => ?_⟩
  rw [same, next]
  exact peopled.kept thread

theorem handled (peopled : host.roster.Peopled) (handled : Handled host call after) :
    after.Peopled := by
  cases handled with
  | spared | asked | found | told | noted | ended | stayed | unbound | dismissed | turned =>
    exact ⟨peopled.begun, peopled.kept⟩
  | spawned => exact peopled.number {}
  | refused => exact peopled.number .suspended
  | created =>
    have numbered := peopled.number .suspended
    exact ⟨numbered.begun, numbered.kept⟩
  | started =>
    exact peopled.of_same (Roster.nextThread_regate ..) fun _ => Roster.contains_regate ..
  | removed | unlisted =>
    exact peopled.of_same (Roster.nextThread_unlist ..) fun _ => Roster.contains_unlist ..
  | ranked | alerted | closed | interrupted =>
    exact peopled.of_same rfl fun _ => Assoc.contains_modify ..

end Roster.Peopled

/-- Tasks are those of threads that there are. -/
def Roster.Tasked (roster : Roster) : Prop :=
  ∀ serial task, roster.tasks.tasks.get? serial = some task →
    roster.controls.contains task.thread = true

theorem Roster.Tasked.handled (tasked : host.roster.Tasked) (handled : Handled host call after)
    (present : Moment.isPresent ⟨host, call⟩ = true) : after.Tasked := by
  intro serial task found
  rcases handled.tabled.origin found with ⟨before, there, same⟩ | ⟨⟨parent, rfl⟩, new⟩ | ⟨rfl, _⟩
  · exact handled.kept (same ▸ tasked serial before there)
  · have added : ∀ control, (host.roster.number control).controls.contains task.thread = true := by
      intro control
      rw [new, Roster.number, Assoc.contains_insert]
      simp [Host.roster]
    cases handled with
    | refused | created => exact added .suspended
    | spared mild | asked mild => cases mild
  · exact handled.kept present

/-! ### What a call does to a priority -/

/-- Only a change of priorities changes any. -/
theorem Handled.priority (handled : Handled host call after) (numbered : host.roster.Numbered)
    (other : ∀ caller serial level, call ≠ .setPriority caller serial level) :
    (after.control thread).priority = (host.control thread).priority := by
  cases handled with
  | spared | asked | found | told | noted | ended | stayed | unbound | dismissed | turned => rfl
  | spawned | refused | created => exact numbered.read_number Control.priority (by rfl) thread
  | started => exact Roster.read_regate _ _ _ Control.priority (fun _ _ => rfl) _
  | removed | unlisted => exact Roster.read_unlist _ _ _ Control.priority fun _ _ => rfl
  | alerted | closed | interrupted =>
    exact Roster.read_modify _ _ _ Control.priority fun _ => rfl
  | ranked caller serial level => exact absurd rfl (other caller serial level)

theorem setPriority_of_unknown (host : Host) (caller : ThreadId) (serial : Nat)
    (unknown : level ∉ levels) : host.setPriority caller serial level =
      (.error (.invalidArgument (.unknownPriority level)), host) := by
  simp only [setPriority, weighPriority, Priority.ofValue?_of_not_mem unknown]

/-- A raise by a caller in another domain is ignored. -/
theorem setPriority_of_raise (headed : host.registry.Headed) (known : level ∈ levels)
    (outside : host.registry.isOutside caller = true)
    (raises : (host.control (host.task serial).thread).priority.value < level) :
    host.setPriority caller serial level = (.ok (), host) := by
  obtain ⟨priority, named, _⟩ := Priority.exists_of_mem_levels known
  have weighed : host.weighPriority true caller serial level = .ok none := by
    simp only [weighPriority, named]
    exact if_pos ⟨raises, (headed.isSnippet caller).trans outside⟩
  rw [setPriority, weighed]
  rfl

/-- The priority of a thread is stored. -/
def withPriority (host : Host) (thread : ThreadId) (priority : Priority) : Host :=
  { host with controls := host.controls.modify thread fun control => { control with priority } }

theorem setPriority_of_allowed (headed : host.registry.Headed) (known : level ∈ levels)
    (allowed : host.registry.isOutside caller = true →
      level ≤ (host.control (host.task serial).thread).priority.value) :
    ∃ priority : Priority, priority.value = level ∧ host.setPriority caller serial level =
      (.ok (), host.withPriority (host.task serial).thread priority) := by
  obtain ⟨priority, named, valued⟩ := Priority.exists_of_mem_levels known
  have weighed : host.weighPriority true caller serial level = .ok (some priority) := by
    simp only [weighPriority, named]
    apply if_neg
    rintro ⟨raises, snippet⟩
    have low := allowed ((headed.isSnippet caller).symm.trans snippet)
    omega
  refine ⟨priority, valued, ?_⟩
  rw [setPriority, weighed]
  rfl

theorem control_withPriority (there : host.controls.contains thread = true) (priority : Priority)
    (other : ThreadId) : (host.withPriority thread priority).control other =
      if other = thread then { host.control thread with priority } else host.control other := by
  have modified := host.roster.control_modify thread other fun control => { control with priority }
  have there : host.roster.controls.contains thread = true := there
  simp only [there, and_true] at modified
  exact modified

/-- A thread that there is not has no priority to change. -/
theorem control_withPriority_of_absent (absent : host.controls.contains thread = false)
    (priority : Priority) (other : ThreadId) :
    (host.withPriority thread priority).control other = host.control other := by
  have modified := host.roster.control_modify thread other fun control => { control with priority }
  have absent : host.roster.controls.contains thread = false := absent
  rw [absent] at modified
  exact modified.trans (if_neg fun moves => Bool.false_ne_true moves.2)

theorem Moment.freeLevel?_of_bound (bound : ¬((host.tasks.tasks.get? serial).map Task.thread =
      some thread ∧ host.registry.isOutside caller = false ∧ level ∈ levels)) :
    Moment.freeLevel? thread ⟨host, .setPriority caller serial level⟩ = none := if_neg bound

theorem priority_withPriority_le (peopled : host.roster.Peopled) (tasked : host.roster.Tasked)
    {priority : Priority} (known : priority.value ∈ levels)
    (allowed : host.registry.isOutside caller = true →
      priority.value ≤ (host.control (host.task serial).thread).priority.value)
    (thread : ThreadId) :
    ((host.withPriority (host.task serial).thread priority).control thread).priority.value ≤
      (Moment.freeLevel? thread ⟨host, .setPriority caller serial priority.value⟩).getD
        (host.control thread).priority.value := by
  cases found : host.tasks.tasks.get? serial with
  | none =>
    -- A serial number that no task has stands for a thread that never is.
    have nobody : host.controls.contains (host.task serial).thread = false := by
      have thread : (host.task serial).thread = ⟨0⟩ := by simp [Host.task, Assoc.getD, found]
      rw [thread, Bool.eq_false_iff]
      exact fun there => Nat.lt_irrefl 0 ((peopled.kept ⟨0⟩).1 there).1
    rw [control_withPriority_of_absent nobody, Moment.freeLevel?_of_bound (by simp [found])]
    exact Int.le_refl _
  | some task =>
    rw [task_eq_of_found found] at allowed ⊢
    rw [control_withPriority (tasked serial task found)]
    split
    · next same =>
      subst same
      cases outside : host.registry.isOutside caller with
      | true =>
        -- What such a caller stores is at most what was there.
        rw [Moment.freeLevel?_of_bound (by simp [outside])]
        exact allowed outside
      | false =>
        have home : (host.tasks.tasks.get? serial).map Task.thread = some task.thread := by
          rw [found]
          rfl
        have free : Moment.freeLevel? task.thread
            ⟨host, .setPriority caller serial priority.value⟩ = some priority.value :=
          if_pos ⟨home, outside, known⟩
        rw [free]
        exact Int.le_refl _
    · next apart =>
      rw [Moment.freeLevel?_of_bound (by simp [found, Ne.symm apart])]
      exact Int.le_refl _

/-- A thread is left with the level that a free caller stored, or no higher than it was. -/
theorem priority_setPriority_le (peopled : host.roster.Peopled) (tasked : host.roster.Tasked)
    (headed : host.registry.Headed) (caller : ThreadId) (serial : Nat) (level : Int)
    (thread : ThreadId) :
    ((host.setPriority caller serial level).2.control thread).priority.value ≤
      (Moment.freeLevel? thread ⟨host, .setPriority caller serial level⟩).getD
        (host.control thread).priority.value := by
  by_cases known : level ∈ levels
  · by_cases raises : host.registry.isOutside caller = true ∧
        (host.control (host.task serial).thread).priority.value < level
    · rw [setPriority_of_raise headed known raises.1 raises.2,
        Moment.freeLevel?_of_bound (by simp [raises.1])]
      exact Int.le_refl _
    · have allowed : host.registry.isOutside caller = true →
          level ≤ (host.control (host.task serial).thread).priority.value := by
        intro outside
        apply Int.not_lt.1
        exact fun raise => raises ⟨outside, raise⟩
      obtain ⟨priority, rfl, stored⟩ := setPriority_of_allowed headed known allowed
      rw [stored]
      exact priority_withPriority_le peopled tasked known allowed thread
  · rw [setPriority_of_unknown host caller serial known,
      Moment.freeLevel?_of_bound (by simp [known])]
    exact Int.le_refl _

/-! ### Runs -/

/-- The priority of a thread does not exceed what was stored last by a free caller. -/
structure Capped (thread : ThreadId) (initial : Int) (moments : List Moment) (host : Host) :
    Prop where
  peopled : host.roster.Peopled
  tasked : host.roster.Tasked
  headed : host.registry.Headed
  capped : (host.control thread).priority.value ≤ lastFree thread initial moments

namespace Capped

theorem create {config : Config} {opened : String → Except Error Trace.Sink}
    (made : Host.create config opened = .ok start) (thread : ThreadId) :
    Capped thread Priority.normal.value [] start := by
  have roster := roster_of_create made
  have registry := (books_of_create made).1
  have blank : start.roster.control thread = {} := by
    rw [roster]
    rfl
  refine ⟨?_, ?_, ?_, ?_⟩
  · rw [roster]
    refine ⟨Nat.one_pos, fun ⟨value⟩ => ?_⟩
    constructor
    · intro there
      cases there
    · intro bounds
      simp only at bounds
      omega
  · rw [roster]
    exact nofun
  · rw [registry]
    exact fun _ _ => rfl
  · exact Int.le_of_eq (congrArg (fun control => control.priority.value) blank)

theorem begin (capped : Capped thread initial moments host) (call : Call)
    (present : Moment.isPresent ⟨host, call⟩ = true) :
    Capped thread initial (moments ++ [⟨host, call⟩]) (host.begin call) := by
  have handled := host.handled call
  refine ⟨capped.peopled.handled handled, capped.tasked.handled handled present, ?_, ?_⟩
  · rw [registry_begin]
    exact (host.writes_heed call).headed capped.headed
  · have before := capped.capped
    rw [lastFree_append]
    by_cases sets : ∃ caller serial level, call = .setPriority caller serial level
    · obtain ⟨caller, serial, level, rfl⟩ := sets
      have after := priority_setPriority_le capped.peopled capped.tasked capped.headed
        caller serial level thread
      have same : (host.begin (.setPriority caller serial level)).control thread =
          (host.setPriority caller serial level).2.control thread := rfl
      rw [same]
      cases free : Moment.freeLevel? thread ⟨host, .setPriority caller serial level⟩ with
      | none =>
        rw [free] at after
        exact Int.le_trans after before
      | some level =>
        rw [free] at after
        exact after
    · have other : ∀ caller serial level, call ≠ .setPriority caller serial level :=
        fun caller serial level same => sets ⟨caller, serial, level, same⟩
      have unset : Moment.freeLevel? thread ⟨host, call⟩ = none := by
        cases call with
        | setPriority caller serial level => exact absurd rfl (other caller serial level)
        | _ => rfl
      have same : ((host.begin call).control thread).priority = (host.control thread).priority :=
        handled.priority capped.peopled.numbered other
      rw [unset, same]
      exact before

/-- Nothing but the beginning of a call bears on any of this. -/
theorem course (capped : Capped thread initial [] start) (course : Course start moments last)
    (present : ∀ moment ∈ moments, moment.isPresent = true) :
    Capped thread initial moments last := by
  induction course with
  | start => exact capped
  | next _ next ih =>
    have before := ih fun moment inside => present moment (List.mem_append_left _ inside)
    cases next with
    | began call => exact before.begin call (present _ (by simp))
    | roused | respun =>
      rw [List.append_nil]
      exact ⟨before.peopled, before.tasked, before.headed, before.capped⟩

end Capped

variable {task : Task} {config : Config} {opened : String → Except Error Trace.Sink}

/-- However callers move between domains and whatever they ask for, the priority of a task is one of
the seven levels and does not exceed the level that was stored last by a caller in no domain or in
the default one. Callers in other domains can only lower it, alone or together: their raises are
ignored and reported as done. An unknown level is refused to everybody. Neither changes anything,
and what is neither is stored. -/
theorem priority_le_lastFree (made : Host.create config opened = .ok start)
    (course : Course start moments last) (present : ∀ moment ∈ moments, moment.isPresent = true)
    (found : last.tasks.tasks.get? serial = some task) :
    (last.control task.thread).priority.value ∈ levels ∧
    (last.control task.thread).priority.value ≤
      lastFree task.thread Priority.normal.value moments ∧
    (∀ more after, Course last more after → (∀ moment ∈ more, moment.isPresent = true) →
      (∀ moment ∈ more, moment.freeLevel? task.thread = none) →
        (after.control task.thread).priority.value ≤
          (last.control task.thread).priority.value) ∧
    ∀ caller level,
      (level ∉ levels → last.setPriority caller serial level =
        (.error (.invalidArgument (.unknownPriority level)), last)) ∧
      (level ∈ levels → last.registry.isOutside caller = true →
        (last.control task.thread).priority.value < level →
          last.setPriority caller serial level = (.ok (), last)) ∧
      (level ∈ levels → (last.registry.isOutside caller = true →
          level ≤ (last.control task.thread).priority.value) →
        ∃ stored, last.setPriority caller serial level = (.ok (), stored) ∧
          (stored.control task.thread).priority.value = level ∧
          ∀ other, other ≠ task.thread → stored.control other = last.control other) := by
  have capped := (Capped.create made task.thread).course course present
  refine ⟨Priority.value_mem_levels _, capped.capped, fun more after onward later bound => ?_,
    fun caller level => ⟨fun unknown => ?_, fun known outside raises => ?_,
      fun known allowed => ?_⟩⟩
  · -- Nothing is stored on the way, so that the priority it began with is the cap.
    have begun : Capped task.thread (last.control task.thread).priority.value [] last :=
      ⟨capped.peopled, capped.tasked, capped.headed, Int.le_refl _⟩
    have ended := (begun.course onward later).capped
    rwa [lastFree, List.filterMap_eq_nil_iff.2 bound] at ended
  · exact setPriority_of_unknown last caller serial unknown
  · have raises : (last.control (last.task serial).thread).priority.value < level := by
      rwa [task_eq_of_found found]
    exact setPriority_of_raise capped.headed known outside raises
  · obtain ⟨priority, valued, stored⟩ := @setPriority_of_allowed last caller serial level
      capped.headed known (by rwa [task_eq_of_found found])
    rw [task_eq_of_found found] at stored
    have controls := control_withPriority (capped.tasked serial task found) priority
    refine ⟨_, stored, ?_, fun other apart => ?_⟩
    · rw [controls, if_pos rfl]
      exact valued
    · rw [controls, if_neg apart]

/-- A thread raises its priority in the default domain, loses it in the next, gets some of it back
between two domains, and is held down in the last. -/
def movedCaller : List Call :=
  [.spawn, .onDomains (.create ⟨1⟩ ⟨1⟩ "first"), .currentTask ⟨1⟩, .setPriority ⟨1⟩ 0 2,
    .onDomains (.create ⟨2⟩ ⟨1⟩ "second"), .setPriority ⟨1⟩ 0 15, .setPriority ⟨1⟩ 0 (-2),
    .onDomains (.unload ⟨2⟩), .setPriority ⟨1⟩ 0 1, .onDomains (.create ⟨3⟩ ⟨1⟩ "third"),
    .setPriority ⟨1⟩ 0 (-1), .setPriority ⟨1⟩ 0 2]

theorem priority_le_lastFree_movedCaller :
    ∃ start, Host.create {} (fun _ => .ok (.memory 0 [])) = .ok start ∧
      lastFree ⟨1⟩ Priority.normal.value (start.momentsAll movedCaller) = 1 ∧
      ((start.heedAll movedCaller).control ⟨1⟩).priority.value ≤ 1 ∧
      ((start.heedAll movedCaller).control ⟨1⟩).priority = .belowNormal ∧
      (start.heedAll movedCaller).setPriority ⟨1⟩ 0 1 = (.ok (), start.heedAll movedCaller) ∧
      (start.heedAll movedCaller).setPriority ⟨1⟩ 0 99 =
        (.error (.invalidArgument (.unknownPriority 99)), start.heedAll movedCaller) := by
  have course := Course.heedAll .start (@Orderly.create {} (fun _ => .ok (.memory 0 [])) _ rfl)
    (show acceptsAll _ movedCaller = true from rfl)
  obtain ⟨_, capped, _, sets⟩ :=
    @priority_le_lastFree _ _ _ 0 ⟨⟨1⟩, false, none⟩ {} (fun _ => .ok (.memory 0 [])) rfl course
      (by decide +kernel) (by decide +kernel)
  refine ⟨_, rfl, by decide +kernel, capped, by decide +kernel, ?_, ?_⟩
  · exact (sets ⟨1⟩ 1).2.1 (by decide) (by decide +kernel) (by decide +kernel)
  · exact (sets ⟨1⟩ 99).1 (by decide)

/-- A call asks for a level through a task. -/
def Call.ranks (serial : Nat) : Call → Bool
  | .setPriority _ other _ => decide (other = serial)
  | _ => false

/-- The first thread raises its priority, and gets a second task in place of the first. Another
thread is in a domain of its own. -/
def secondTask : List Call :=
  [.spawn, .onDomains (.create ⟨1⟩ ⟨1⟩ "first"), .spawn, .onDomains (.create ⟨2⟩ ⟨2⟩ "second"),
    .currentTask ⟨1⟩, .setPriority ⟨1⟩ 0 2, .removeTask ⟨1⟩, .currentTask ⟨1⟩]

/-- The second task has the priority that was stored through the first, and nothing was stored
through it. If a caller in another domain has looked and not stored yet while a free one stores a
lower level, the thread is left above that. And without the manager of the tasks, such a caller may
raise the priority. -/
theorem not_capped_secondTask :
    ∃ start, Host.create {} (fun _ => .ok (.memory 0 [])) = .ok start ∧
      let host := start.heedAll secondTask
      ((host.tasks.tasks.get? 1).map Task.thread = some ⟨1⟩ ∧
        secondTask.any (Call.ranks 1) = false ∧
        Priority.normal.value < (host.control ⟨1⟩).priority.value) ∧
      (host.registry.isOutside ⟨1⟩ = false ∧ host.registry.isOutside ⟨2⟩ = true ∧
        ∃ verdict, host.weighPriority true ⟨2⟩ 1 1 = .ok verdict ∧
          -15 < (((host.setPriority ⟨1⟩ 1 (-15)).2.storePriority 1 verdict).control
            ⟨1⟩).priority.value) ∧
      host.weighPriority false ⟨2⟩ 1 15 = .ok (some .timeCritical) :=
  ⟨_, rfl, by decide +kernel,
    ⟨by decide +kernel, by decide +kernel, _, rfl, by decide +kernel⟩, rfl⟩

end Steward.Host
