import Steward.Proofs.Host.Release
import Steward.Proofs.Tasks.Lifecycle

/-! How a thread ends. Whether its routine is over or it was called off at its gate, it leaves its
domain, then the table of tasks, and then counts as exited. It does each of these once, and leaves
nothing behind. -/

set_option autoImplicit false

namespace Steward

/-- The stage that comes next. After the last one the thread is gone. -/
def Departure.next? : Departure → Option Departure
  | .unbinding => some .unlisting
  | .unlisting => some .marking
  | .marking => none

end Steward

namespace Steward.Host

open Domain Tasks

variable {start host last : Host} {moments more : List Moment} {moment : Moment} {call : Call}
  {thread : ThreadId} {serial : Nat} {after : Roster}

/-! ### Leaving a domain -/

/-- What becomes of the domains when a thread leaves the one it is in, if any, and what is noted of
it. The domain of a main thread ends, and its manager is told once. -/
inductive Unbinds (thread : ThreadId) (before after : Registry) : List Note → Prop where
  | nowhere (absent : before.bindings.get? thread = none) (same : after = before) :
      Unbinds thread before after []
  | left {domain : DomainId} {record : Record}
      (bound : before.bindings.get? thread = some domain)
      (found : before.domains.get? domain = some record) (counted : 0 < record.threads)
      (ordinary : record.mainThread ≠ thread)
      (domains : ∀ other, after.domains.get? other =
        if other = domain then some { record with threads := record.threads - 1 }
        else before.domains.get? other)
      (bindings : ∀ other, after.bindings.get? other =
        if other = thread then none else before.bindings.get? other) :
      Unbinds thread before after []
  | ended {domain : DomainId} {record : Record}
      (bound : before.bindings.get? thread = some domain)
      (found : before.domains.get? domain = some record) (counted : 0 < record.threads)
      (main : record.mainThread = thread)
      (domains : ∀ other, after.domains.get? other =
        if other = domain then none else before.domains.get? other)
      (bindings : ∀ other, after.bindings.get? other =
        if before.bindings.get? other = some domain then none else before.bindings.get? other) :
      Unbinds thread before after
        [.mainThreadExit domain (decide (record.threads = 1)) after.domains.size]

theorem unbinds_leave {registry : Registry} {domain : DomainId} {record : Record}
    (bound : registry.bindings.get? thread = some domain)
    (found : registry.domains.get? domain = some record) (counted : 0 < record.threads)
    (ordinary : record.mainThread ≠ thread) :
    Unbinds thread registry (registry.leave thread) [] := by
  have leaves := Registry.leaves_leave bound found
  exact .left bound found counted ordinary leaves.domains leaves.bindings

theorem unbinds_drop {registry : Registry} {domain : DomainId} {record : Record}
    (bound : registry.bindings.get? thread = some domain)
    (found : registry.domains.get? domain = some record) (counted : 0 < record.threads)
    (main : record.mainThread = thread) :
    Unbinds thread registry ((registry.leave thread).drop domain)
      [.mainThreadExit domain (decide (record.threads = 1))
        ((registry.leave thread).drop domain).domains.size] := by
  have removes := (Registry.leaves_leave bound found).removes bound
    (Registry.removes_drop _ domain)
  exact .ended bound found counted main removes.domains removes.bindings

/-- A thread is released from the domain it is in. -/
theorem unbinds_releaseThread (counted : host.registry.Counted) (thread : ThreadId) :
    ∃ notes, (host.releaseThread thread).2.notes = host.notes ++ notes ∧
      Unbinds thread host.registry (host.releaseThread thread).2.registry notes := by
  cases bound : host.registry.bindings.get? thread with
  | none =>
    rw [releaseThread_of_unbound bound]
    exact ⟨[], (List.append_nil _).symm, .nowhere bound rfl⟩
  | some domain =>
    obtain ⟨record, found, positive⟩ := counted.positive bound
    by_cases main : record.mainThread = thread
    · have single : decide (record.threads - 1 = 0) = decide (record.threads = 1) :=
        decide_eq_decide.2 (by omega)
      rw [(releaseThread_of_main counted bound found main).2, single]
      exact ⟨_, rfl, unbinds_drop bound found positive main⟩
    · rw [releaseThread_of_plain counted bound found main]
      exact ⟨[], (List.append_nil _).symm, unbinds_leave bound found positive main⟩

/-! ### Ending -/

/-- A thread that ends takes the step of a stage. -/
def Moment.departs (thread : ThreadId) (stage : Departure) (moment : Moment) : Bool :=
  match moment.call with
  | .depart other => decide (other = thread ∧ moment.host.leaving.get? other = some stage)
  | _ => false

/-- What becomes of a thread's ending, or of its going on, when a call begins. -/
inductive Parts (host : Host) (thread : ThreadId) : Call → Option Departure → Prop where
  | stays {call : Call} (apart : call ≠ .depart thread) :
      Parts host thread call (host.leaving.get? thread)
  | ends {call : Call}
      (ends : call = .beginDeparture thread ∨ Moment.passesGate thread ⟨host, call⟩ = true) :
      Parts host thread call (some .unbinding)
  | departs : Parts host thread (.depart thread)
      ((host.leaving.get? thread).bind Departure.next?)

theorem parts_of_end {other : ThreadId} (apart : call ≠ .depart thread) (ends : other = thread →
      call = .beginDeparture thread ∨ Moment.passesGate thread ⟨host, call⟩ = true) :
    Parts host thread call ((host.leaving.insert other .unbinding).get? thread) := by
  rw [Assoc.get?_insert]
  split
  · next same => exact .ends (ends same.symm)
  · exact .stays apart

theorem parts_of_step {other : ThreadId} {leaving : Assoc ThreadId Departure}
    (own : leaving.get? other = (host.leaving.get? other).bind Departure.next?)
    (others : thread ≠ other → leaving.get? thread = host.leaving.get? thread) :
    Parts host thread (.depart other) (leaving.get? thread) := by
  by_cases same : thread = other
  · subst same
    exact own ▸ .departs
  · rw [others same]
    exact .stays fun call => same (Call.depart.inj call).symm

theorem parts_of_stage {other : ThreadId} {stage next : Departure}
    (found : host.leaving.get? other = some stage) (ahead : stage.next? = some next) :
    Parts host thread (.depart other) ((host.leaving.insert other next).get? thread) :=
  parts_of_step (by rw [Assoc.get?_insert_self, found, Option.bind_some, ahead]) fun apart =>
    Assoc.get?_insert_of_ne _ apart _

theorem Handled.parts (handled : Handled host call after) (thread : ThreadId) :
    Parts host thread call (after.leaving.get? thread) := by
  cases handled with
  | spared mild | asked mild =>
    refine .stays ?_
    rintro rfl
    cases mild
  | spawned | refused | created | found | told | noted | ranked | alerted | interrupted | turned =>
    exact .stays nofun
  | started =>
    rw [Roster.leaving_regate]
    exact .stays nofun
  | removed =>
    rw [Roster.leaving_unlist]
    exact .stays nofun
  | ended => exact parts_of_end nofun fun same => .inl (same ▸ rfl)
  | dismissed seen purpose =>
    refine parts_of_end nofun fun same => .inr ?_
    subst same
    simp [Moment.passesGate, seen, purpose]
  | stayed stage => exact parts_of_step (stage.trans (by rw [stage]; rfl)) fun _ => rfl
  | unbound stage => exact parts_of_stage stage rfl
  | @unlisted other stage =>
    have staged : ((host.roster.unlist other).stage other .marking).leaving =
        host.leaving.insert other .marking :=
      congrArg (fun leaving => leaving.insert other .marking) (Roster.leaving_unlist ..)
    rw [staged]
    exact parts_of_stage stage rfl
  | closed stage =>
    refine parts_of_step ?_ fun apart => Assoc.get?_erase_of_ne _ apart
    rw [stage]
    exact Assoc.get?_erase_self ..

/-- A thread of which something is kept is never forgotten. -/
theorem Handled.kept (handled : Handled host call after)
    (kept : host.roster.controls.contains thread = true) :
    after.controls.contains thread = true := by
  cases handled with
  | spared | asked | found | told | noted | ended | stayed | unbound | dismissed | turned =>
    exact kept
  | spawned | refused | created =>
    exact (Assoc.contains_insert ..).trans (by rw [kept, Bool.or_true])
  | ranked | alerted | closed | interrupted => exact (Assoc.contains_modify ..).trans kept
  | started => exact (Roster.contains_regate ..).trans kept
  | removed | unlisted => exact (Roster.contains_unlist ..).trans kept

/-- A thread exits with the last step of its end. -/
theorem Handled.exited (handled : Handled host call after) (numbered : host.roster.Numbered)
    (kept : host.leaving.get? thread = some .marking →
      host.roster.controls.contains thread = true) :
    (after.control thread).exited =
      ((host.control thread).exited || Moment.departs thread .marking ⟨host, call⟩) := by
  have aside : Moment.departs thread .marking ⟨host, call⟩ = false →
      (after.control thread).exited = (host.roster.control thread).exited →
      (after.control thread).exited =
        ((host.control thread).exited || Moment.departs thread .marking ⟨host, call⟩) := by
    intro rests same
    rw [rests, Bool.or_false]
    exact same
  cases handled with
  | spared mild | asked mild =>
    refine aside ?_ rfl
    cases call <;> first | rfl | cases mild
  | spawned | refused | created =>
    exact aside rfl (numbered.read_number Control.exited (by rfl) thread)
  | started => exact aside rfl (Roster.read_regate _ _ _ Control.exited (fun _ _ => rfl) _)
  | removed => exact aside rfl (Roster.read_unlist _ _ _ Control.exited fun _ _ => rfl)
  | unlisted stage =>
    exact aside (by simp [Moment.departs, stage])
      (Roster.read_unlist _ _ _ Control.exited fun _ _ => rfl)
  | ranked | alerted | interrupted =>
    exact aside rfl (Roster.read_modify _ _ _ Control.exited fun _ => rfl)
  | found | told | noted | ended | dismissed | turned => exact aside rfl rfl
  | stayed stage | unbound stage => exact aside (by simp [Moment.departs, stage]) rfl
  | @closed other stage =>
    have closed : (host.roster.close other).control thread =
        if thread = other ∧ host.roster.controls.contains other = true then
          { host.roster.control other with exited := true }
        else host.roster.control thread := host.roster.control_modify other thread _
    by_cases same : thread = other
    · subst same
      rw [closed]
      simp [Moment.departs, stage, kept stage]
    · exact aside (by simp [Moment.departs, Ne.symm same])
        (by rw [closed, if_neg fun there => same there.1])

/-- A call brings a thread into a domain. -/
def Moment.binds (thread : ThreadId) (moment : Moment) : Bool :=
  match moment.call with
  | .onDomains operation => operation.binds thread
  | _ => false

/-- A thread that is in no domain stays so, unless it is brought into one. -/
theorem Handled.outside (handled : Handled host call after) (known : thread.value < host.nextThread)
    (calm : Moment.binds thread ⟨host, call⟩ = false)
    (absent : host.registry.bindings.get? thread = none) : after.bindings.get? thread = none := by
  have performed : ∀ operation : Operation, operation.binds thread = false →
      (host.registry.perform operation).bindings.get? thread = none :=
    fun operation calm => (host.registry.turn_perform operation).unbound calm absent
  cases handled with
  | @asked _ operation asks =>
    refine performed operation ?_
    cases call with
    | onDomains => exact Option.some.inj asks ▸ calm
    | releaseThread => exact Option.some.inj asks ▸ rfl
    | hear event =>
      cases event with
      | domainUnloaded => exact Option.some.inj asks ▸ rfl
      | _ => cases asks
    | _ => cases asks
  | created =>
    exact performed _ (decide_eq_false fun new => ne_next_of_known known new.symm)
  | unbound => exact performed _ rfl
  | started =>
    rw [Roster.bindings_regate]
    exact absent
  | removed =>
    rw [Roster.bindings_unlist]
    exact absent
  | @unlisted other =>
    have same : ((host.roster.unlist other).stage other .marking).bindings =
        host.registry.bindings := host.roster.bindings_unlist other
    rw [same]
    exact absent
  | spared | spawned | refused | found | told | noted | ranked | alerted | ended | stayed | closed
  | interrupted | dismissed | turned => exact absent

theorem Handled.unbinds (handled : Handled host (.depart thread) after)
    (found : host.leaving.get? thread = some .unbinding) :
    after.bindings.get? thread = none := by
  cases handled with
  | unbound => exact host.registry.get?_releaseThread thread
  | spared mild | asked mild => cases mild
  | stayed stage | unlisted stage | closed stage => cases stage.symm.trans found

theorem Handled.unlists (handled : Handled host (.depart thread) after)
    (found : host.leaving.get? thread = some .unlisting) :
    after.tasks = (host.tasks.remove thread).2 := by
  cases handled with
  | unlisted => exact host.roster.tasks_unlist thread
  | spared mild | asked mild => cases mild
  | stayed stage | unbound stage | closed stage => cases stage.symm.trans found

/-- A thread that has no task and no number of the runtime gets neither but by asking for its
task. -/
theorem Tabled.off {tasks : Table} (tabled : Tabled host call tasks) (listed : host.tasks.Listed)
    (known : thread.value < host.nextThread) (apt : Moment.isApt ⟨host, call⟩ = true)
    (calm : call ≠ .currentTask thread) (unlisted : host.tasks.live.get? thread = none)
    (unmanaged : host.tasks.managed.get? thread = none) :
    tasks.live.get? thread = none ∧ tasks.managed.get? thread = none := by
  cases tabled with
  | same => exact ⟨unlisted, unmanaged⟩
  | added =>
    have old := ne_next_of_known known
    exact ⟨(Assoc.get?_insert_of_ne _ old _).trans unlisted, unmanaged⟩
  | found other =>
    have apart : thread ≠ other := fun same => calm (same ▸ rfl)
    unfold Table.find
    split
    · exact ⟨unlisted, unmanaged⟩
    · exact ⟨(Assoc.get?_insert_of_ne _ apart _).trans unlisted, unmanaged⟩
  | told made =>
    rcases Table.setLogical_eq_ok made with rfl | ⟨task, there, stays, rfl⟩
    · exact ⟨unlisted, unmanaged⟩
    · have apart : thread ≠ task.thread := fun same => by
        have lives := listed.listed _ task there stays
        rw [← same, unlisted] at lives
        cases lives
      exact ⟨unlisted, (Assoc.get?_insert_of_ne _ apart _).trans unmanaged⟩
  | noted other number =>
    have apart : thread ≠ other := fun same => by
      have there : host.tasks.live.contains other = true := apt
      rw [← same, Assoc.contains, unlisted] at there
      cases there
    exact ⟨unlisted, (Assoc.get?_insert_of_ne _ apart _).trans unmanaged⟩
  | removed => simp [Assoc.get?_erase, unlisted, unmanaged]

/-- A thread that ends has left its domain. -/
def Roster.hasLeft (roster : Roster) (thread : ThreadId) : Bool :=
  (roster.control thread).exited ||
    (roster.leaving.get? thread).any fun stage => decide (stage ≠ .unbinding)

/-- A thread that ends has left the table of tasks. -/
def Roster.isOff (roster : Roster) (thread : ThreadId) : Bool :=
  (roster.control thread).exited || decide (roster.leaving.get? thread = some .marking)

theorem Roster.hasLeft_of_isOff {roster : Roster} (off : roster.isOff thread = true) :
    roster.hasLeft thread = true := by
  simp only [Roster.isOff, Roster.hasLeft, Bool.or_eq_true, decide_eq_true_eq] at off ⊢
  exact off.imp_right fun stage => by simp [stage]

/-- A thread is over with its routine when it runs, and once. When it has left its domain, nobody
brings it into one again, and it asks for its task no more. -/
def Moment.isProper (thread : ThreadId) (moment : Moment) : Bool :=
  match moment.call with
  | .beginDeparture other => decide (other = thread → moment.host.isIdle thread = true ∧
      moment.host.leaving.get? thread = none ∧ (moment.host.control thread).exited = false)
  | .currentTask other => decide (other = thread → moment.host.roster.hasLeft thread = false)
  | .onDomains operation =>
      decide (operation.binds thread = true → moment.host.roster.hasLeft thread = false)
  | _ => true

/-- How far the end of a thread has come, and what of it is left. -/
structure Parting (thread : ThreadId) (moments : List Moment) (roster : Roster) : Prop where
  known : thread.value < roster.nextThread
  kept : roster.controls.contains thread = true
  /-- A thread that exited ends no more. -/
  finished : (roster.control thread).exited = true → roster.leaving.get? thread = none
  exits : (roster.control thread).exited = moments.any (Moment.departs thread .marking)
  unbinds : moments.countP (Moment.departs thread .unbinding) = (roster.hasLeft thread).toNat
  unbound : roster.hasLeft thread = true → roster.bindings.get? thread = none
  unlisted : roster.isOff thread = true →
    roster.tasks.live.get? thread = none ∧ roster.tasks.managed.get? thread = none

/-- A thread that waits for its start does not end and did not exit. -/
def Waiting (thread : ThreadId) (host : Host) : Prop :=
  host.AtGate thread →
    host.leaving.get? thread = none ∧ (host.control thread).exited = false

namespace Parting

/-- What has to be known of a call for the end of a thread. -/
theorem next (parting : Parting thread moments host.roster) (numbered : host.roster.Numbered)
    (handled : Handled host call after)
    (finished : (after.control thread).exited = true → after.leaving.get? thread = none)
    (left : (after.hasLeft thread).toNat = (host.roster.hasLeft thread).toNat +
      (Moment.departs thread .unbinding ⟨host, call⟩).toNat)
    (unbound : after.hasLeft thread = true → after.bindings.get? thread = none)
    (unlisted : after.isOff thread = true →
      after.tasks.live.get? thread = none ∧ after.tasks.managed.get? thread = none) :
    Parting thread (moments ++ [⟨host, call⟩]) after := by
  refine ⟨Nat.lt_of_lt_of_le parting.known (handled.numbered numbered).2,
    handled.kept parting.kept, finished, ?_, ?_, unbound, unlisted⟩
  · have exited := parting.exits
    rw [handled.exited numbered fun _ => parting.kept, List.any_append, ← exited]
    simp [Roster.control, Host.control, roster]
  · rw [left, ← parting.unbinds, List.countP_append]
    cases departs : Moment.departs thread .unbinding ⟨host, call⟩ <;> simp [departs]

/-- Nothing changes for a thread that takes no step to its end. -/
theorem keep (parting : Parting thread moments host.roster) (registered : Registered host.roster)
    (numbered : host.roster.Numbered) (handled : Handled host call after)
    (apt : Moment.isApt ⟨host, call⟩ = true) (proper : Moment.isProper thread ⟨host, call⟩ = true)
    (rests : ∀ stage, Moment.departs thread stage ⟨host, call⟩ = false)
    (same : after.leaving.get? thread = host.roster.leaving.get? thread) :
    Parting thread (moments ++ [⟨host, call⟩]) after := by
  have exited : (after.control thread).exited = (host.roster.control thread).exited :=
    (handled.exited numbered fun _ => parting.kept).trans (by rw [rests, Bool.or_false]; rfl)
  have left : after.hasLeft thread = host.roster.hasLeft thread := by
    simp only [Roster.hasLeft, exited, same]
  have off : after.isOff thread = host.roster.isOff thread := by
    simp only [Roster.isOff, exited, same]
  refine parting.next numbered handled (fun finished => ?_) ?_ (fun gone => ?_) fun gone => ?_
  · exact same.trans (parting.finished (exited ▸ finished))
  · rw [left, rests]
    rfl
  · -- Somebody would have to bring the thread into a domain again.
    rw [left] at gone
    refine handled.outside parting.known ?_ (parting.unbound gone)
    cases call with
    | onDomains operation =>
      have calm : operation.binds thread = true → host.roster.hasLeft thread = false :=
        of_decide_eq_true proper
      exact Bool.eq_false_iff.2 fun binds => by simp [calm binds] at gone
    | _ => rfl
  · -- The thread would have to ask for its task again.
    rw [off] at gone
    obtain ⟨unlisted, unmanaged⟩ := parting.unlisted gone
    refine handled.tabled.off registered.listed parting.known apt ?_ unlisted unmanaged
    rintro rfl
    have calm : host.roster.hasLeft thread = false := of_decide_eq_true proper rfl
    cases calm.symm.trans (Roster.hasLeft_of_isOff gone)

/-- Who begins to end did not before. -/
theorem alive (proper : Moment.isProper thread ⟨host, call⟩ = true) (waiting : Waiting thread host)
    (ends : call = .beginDeparture thread ∨ Moment.passesGate thread ⟨host, call⟩ = true) :
    host.roster.leaving.get? thread = none ∧ (host.roster.control thread).exited = false := by
  rcases ends with rfl | passes
  · exact (of_decide_eq_true proper rfl).2
  · obtain ⟨_, wait, _, _, _, purpose, found⟩ := atGate_of_passesGate passes
    exact waiting ⟨wait, found, purpose⟩

theorem not_departs_of_leaving (absent : host.roster.leaving.get? thread = none)
    (stage : Departure) : Moment.departs thread stage ⟨host, call⟩ = false := by
  cases call with
  | depart other =>
    refine decide_eq_false ?_
    rintro ⟨rfl, found⟩
    cases absent.symm.trans found
  | _ => rfl

/-- A thread begins to end. -/
theorem begin (parting : Parting thread moments host.roster) (numbered : host.roster.Numbered)
    (handled : Handled host call after) (absent : host.roster.leaving.get? thread = none)
    (going : (host.roster.control thread).exited = false)
    (begins : after.leaving.get? thread = some .unbinding) :
    Parting thread (moments ++ [⟨host, call⟩]) after := by
  have rests := @not_departs_of_leaving host call thread absent
  have exited : (after.control thread).exited = false :=
    (handled.exited numbered fun _ => parting.kept).trans
      (by rw [rests, Bool.or_false]; exact going)
  have before : host.roster.hasLeft thread = false := by simp [Roster.hasLeft, absent, going]
  have left : after.hasLeft thread = false := by simp [Roster.hasLeft, exited, begins]
  have off : after.isOff thread = false := by simp [Roster.isOff, exited, begins]
  refine parting.next numbered handled (fun finished => ?_) ?_ (fun gone => ?_) fun gone => ?_
  · cases exited.symm.trans finished
  · rw [left, before, rests]
    rfl
  · cases left.symm.trans gone
  · cases off.symm.trans gone

/-- A thread takes a step to its end. -/
theorem step (parting : Parting thread moments host.roster) (registered : Registered host.roster)
    (numbered : host.roster.Numbered) (handled : Handled host (.depart thread) after)
    {stage : Departure} (found : host.roster.leaving.get? thread = some stage)
    (next : after.leaving.get? thread = stage.next?) :
    Parting thread (moments ++ [⟨host, .depart thread⟩]) after := by
  have going : (host.roster.control thread).exited = false := by
    refine Bool.eq_false_iff.2 fun finished => ?_
    cases (parting.finished finished).symm.trans found
  have departs : ∀ other, Moment.departs thread other ⟨host, .depart thread⟩ =
      decide (stage = other) := fun other => by
    have found : host.leaving.get? thread = some stage := found
    simp [Moment.departs, found]
  have exited : (after.control thread).exited = decide (stage = .marking) := by
    rw [handled.exited numbered fun _ => parting.kept, departs]
    have going : (host.control thread).exited = false := going
    rw [going, Bool.false_or]
  cases stage with
  | unbinding =>
    -- The thread had not left its domain before, so that this is the one step in which it does.
    refine parting.next numbered handled (fun finished => ?_) ?_ (fun _ => ?_) fun gone => ?_
    · cases exited.symm.trans finished
    · simp [Roster.hasLeft, exited, going, found, next, departs, Departure.next?]
    · exact handled.unbinds found
    · simp [Roster.isOff, exited, next, Departure.next?] at gone
  | unlisting =>
    have left : host.roster.hasLeft thread = true := by simp [Roster.hasLeft, found]
    refine parting.next numbered handled (fun finished => ?_) ?_ (fun _ => ?_) fun _ => ?_
    · cases exited.symm.trans finished
    · simp [Roster.hasLeft, found, next, departs, Departure.next?]
    · exact handled.outside parting.known rfl (parting.unbound left)
    · rw [handled.unlists found]
      simp
  | marking =>
    have left : host.roster.hasLeft thread = true := by simp [Roster.hasLeft, found]
    have off : host.roster.isOff thread = true := by simp [Roster.isOff, found]
    obtain ⟨unlisted, unmanaged⟩ := parting.unlisted off
    refine parting.next numbered handled (fun _ => next) ?_ (fun _ => ?_) fun _ => ?_
    · simp [Roster.hasLeft, found, exited, departs]
    · exact handled.outside parting.known rfl (parting.unbound left)
    · exact handled.tabled.off registered.listed parting.known rfl (by simp) unlisted unmanaged

theorem handled (parting : Parting thread moments host.roster)
    (registered : Registered host.roster) (numbered : host.roster.Numbered)
    (handled : Handled host call after) (apt : Moment.isApt ⟨host, call⟩ = true)
    (proper : Moment.isProper thread ⟨host, call⟩ = true) (waiting : Waiting thread host) :
    Parting thread (moments ++ [⟨host, call⟩]) after := by
  have parts := handled.parts thread
  generalize outcome : after.leaving.get? thread = left at parts
  cases parts with
  | stays apart =>
    refine parting.keep registered numbered handled apt proper (fun stage => ?_) outcome
    cases call with
    | depart other => exact decide_eq_false fun there => apart (there.1 ▸ rfl)
    | _ => rfl
  | ends ends =>
    obtain ⟨absent, going⟩ := alive proper waiting ends
    exact parting.begin numbered handled absent going outcome
  | departs =>
    cases found : host.roster.leaving.get? thread with
    | none =>
      refine parting.keep registered numbered handled apt proper
        (not_departs_of_leaving found) (outcome.trans ?_)
      have absent : host.leaving.get? thread = none := found
      rw [absent, found]
      rfl
    | some stage =>
      refine parting.step registered numbered handled found (outcome.trans ?_)
      have there : host.leaving.get? thread = some stage := found
      rw [there]
      rfl

end Parting

theorem Waiting.begin (waiting : Waiting thread host) (orderly : host.Orderly)
    (numbered : host.roster.Numbered) (kept : host.roster.controls.contains thread = true)
    (proper : Moment.isProper thread ⟨host, call⟩ = true) : Waiting thread (host.begin call) := by
  intro gated
  have handled := host.handled call
  obtain ⟨before, stays⟩ := gated.of_begin orderly (numbered thread kept)
  obtain ⟨absent, going⟩ := waiting before
  have parts := handled.parts thread
  have exited := handled.exited numbered fun _ => kept
  rw [Parting.not_departs_of_leaving absent, going] at exited
  refine ⟨?_, exited⟩
  have left : (host.begin call).leaving.get? thread =
    (host.begin call).roster.leaving.get? thread := rfl
  rw [left]
  generalize (host.begin call).roster.leaving.get? thread = departure at parts
  cases parts with
  | stays => exact absent
  | departs =>
    rw [absent]
    rfl
  | ends ends =>
    rcases ends with rfl | passes
    · -- Who waits for its start has no routine that could be over.
      obtain ⟨wait, found, _⟩ := before
      have idle := (of_decide_eq_true proper rfl).1
      cases found.symm.trans (absent_of_isIdle idle)
    · cases stays.symm.trans passes

/-- A thread that has no number does not end. -/
theorem known_of_leaving (orderly : start.Orderly) (numbered : start.roster.Numbered)
    (nobody : start.leaving.get? thread = none) (course : Course start moments last)
    (proper : ∀ moment ∈ moments, moment.isProper thread = true)
    (leaves : last.leaving.get? thread ≠ none) : thread.value < last.nextThread := by
  let holds : List Moment → Host → Prop := fun _ host =>
    host.roster.Numbered ∧ (host.leaving.get? thread ≠ none → thread.value < host.nextThread)
  have kept : holds moments last := by
    refine @Course.induction _ _ _ holds _ course orderly proper
      ⟨numbered, fun leaves => absurd nobody leaves⟩ ?_
    rintro _ _ host after next orderly proper ⟨numbered, known⟩
    cases next with
    | roused | respun => exact ⟨numbered, known⟩
    | began call accepted =>
      have handled := host.handled call
      have more := handled.numbered numbered
      refine ⟨more.1, fun leaves => Nat.lt_of_lt_of_le ?_ more.2⟩
      have parts := handled.parts thread
      have left : (host.begin call).roster.leaving.get? thread ≠ none := leaves
      generalize (host.begin call).roster.leaving.get? thread = departure at parts left
      cases parts with
      | stays => exact known left
      | departs => exact known fun absent => left (by rw [absent]; rfl)
      | ends ends =>
        rcases ends with rfl | passes
        · have fits := proper ⟨host, .beginDeparture thread⟩ (by simp)
          have idle := (of_decide_eq_true fits rfl).1
          simp only [isIdle, Bool.and_eq_true, decide_eq_true_eq] at idle
          exact idle.1
        · obtain ⟨_, wait, _, _, _, _, found⟩ := atGate_of_passesGate passes
          exact (orderly.waits thread wait found).numbered
  exact kept.2 leaves

/-- Domains count their threads exactly, whatever is done on a host. -/
theorem counted_of_course (orderly : start.Orderly) (counted : start.registry.Counted)
    (course : Course start moments last) : last.registry.Counted := by
  let holds : List Moment → Host → Prop := fun _ host => host.registry.Counted
  refine @Course.induction _ _ _ holds (fun _ => True) course orderly (fun _ _ => trivial)
    counted ?_
  intro _ _ host after next _ _ counted
  cases next with
  | roused | respun => exact counted
  | began call accepted =>
    have counted : host.registry.Counted := counted
    show (host.begin call).registry.Counted
    rw [registry_begin]
    cases host.bearing_heed call with
    | aside same => exact counted.of_same same.bindings same.threads
    | asked operation _ same =>
      exact (counted.turn (host.registry.turn_perform operation)).of_same same.bindings same.threads

/-- A new thread does not end yet. -/
theorem going_of_create {parent : ThreadId} (created : (host.createTask parent).1 = .ok serial)
    (nobody : host.leaving.get? ⟨host.nextThread⟩ = none)
    (handled : Handled host (.createTask parent) after) :
    after.nextThread = host.nextThread + 1 ∧
      after.controls.contains ⟨host.nextThread⟩ = true ∧
      (after.control ⟨host.nextThread⟩).exited = false ∧
      after.leaving.get? ⟨host.nextThread⟩ = none := by
  cases handled with
  | spared mild | asked mild => cases mild
  | refused denied => cases denied.symm.trans created
  | created =>
    have kept : (host.roster.number .suspended).controls.contains ⟨host.nextThread⟩ = true :=
      (Assoc.contains_insert ..).trans (by simp [roster])
    have control := (host.roster.control_number ⟨host.nextThread⟩ .suspended).trans (if_pos rfl)
    exact ⟨rfl, kept, congrArg Control.exited control, nobody⟩

theorem parting_of_create {parent : ThreadId} (created : (host.createTask parent).1 = .ok serial)
    (nobody : host.leaving.get? ⟨host.nextThread⟩ = none)
    (handled : Handled host (.createTask parent) after) :
    Parting ⟨host.nextThread⟩ [] after := by
  obtain ⟨known, kept, going, absent⟩ := going_of_create created nobody handled
  have left : after.hasLeft ⟨host.nextThread⟩ = false := by simp [Roster.hasLeft, going, absent]
  have off : after.isOff ⟨host.nextThread⟩ = false := by simp [Roster.isOff, going, absent]
  exact ⟨known ▸ Nat.lt_succ_self _, kept, fun _ => absent, going, by rw [left]; rfl,
    fun gone => absurd gone (by simp [left]), fun gone => absurd gone (by simp [off])⟩

theorem leaving_depart (host : Host) (thread : ThreadId) :
    (host.begin (.depart thread)).leaving.get? thread =
      (host.leaving.get? thread).bind Departure.next? := by
  have parts := (host.handled (.depart thread)).parts thread
  have same : (host.begin (.depart thread)).leaving.get? thread =
    (host.begin (.depart thread)).roster.leaving.get? thread := rfl
  rw [same]
  generalize (host.begin (.depart thread)).roster.leaving.get? thread = departure at parts
  cases parts with
  | departs => rfl
  | stays apart => exact absurd rfl apart
  | ends ends => rcases ends with other | passes <;> contradiction

/-- What a thread that ends does to the domains: it leaves its own, and does nothing else to them.
-/
theorem unbinds_depart (counted : host.registry.Counted) (thread : ThreadId) :
    ∃ notes, (host.begin (.depart thread)).notes = host.notes ++ notes ∧
      if host.leaving.get? thread = some .unbinding then
        Unbinds thread host.registry (host.begin (.depart thread)).registry notes
      else notes = [] ∧ (host.begin (.depart thread)).registry = host.registry := by
  have same : (host.begin (.depart thread)).registry = (host.depart thread).registry := rfl
  have told : (host.begin (.depart thread)).notes = (host.depart thread).notes := rfl
  rw [same, told]
  unfold depart
  cases stage : host.leaving.get? thread with
  | none => exact ⟨[], (List.append_nil _).symm, by simp⟩
  | some departure =>
    cases departure with
    | unbinding => simpa using unbinds_releaseThread counted thread
    | unlisting =>
      have apart : (host.removeTask thread).2.registry = host.registry ∧
          (host.removeTask thread).2.notes = host.notes := by
        unfold removeTask moveGate
        simp only
        split
        · split <;> exact ⟨rfl, rfl⟩
        · exact ⟨rfl, rfl⟩
      exact ⟨[], apart.2.trans (List.append_nil _).symm, by simpa using apart.1⟩
    | marking => exact ⟨[], (List.append_nil _).symm, by simp; rfl⟩

/-- A host on which a task was just created for a thread that does not end yet. -/
structure Unended (serial : Nat) (thread : ThreadId) (host : Host) : Prop extends
    Newborn serial thread host where
  parting : Parting thread [] host.roster
  waiting : Waiting thread host
  counted : host.registry.Counted

namespace Unended

theorem create {config : Config} {opened : String → Except Error Trace.Sink}
    {earlier : List Moment} {parent : ThreadId} (made : Host.create config opened = .ok start)
    (before : Course start earlier host) (created : (host.createTask parent).1 = .ok serial)
    (own : ((host.begin (.createTask parent)).task serial).thread = thread)
    (apt : ∀ moment ∈ earlier, moment.isApt = true)
    (proper : ∀ moment ∈ earlier, moment.isProper thread = true) :
    Unended serial thread (host.begin (.createTask parent)) := by
  have newborn := Newborn.create made before apt created
  have fresh : thread = ⟨host.nextThread⟩ := own.symm.trans newborn.lives.home
  have empty : start.leaving.get? thread = none := by
    have same : start.leaving = {} := congrArg Roster.leaving (roster_of_create made)
    rw [same]
    rfl
  have nobody : host.leaving.get? thread = none := by
    by_contra leaves
    have known := known_of_leaving (.create made) (numbered_of_create made) empty before proper
      leaves
    exact ne_next_of_known known fresh
  subst fresh
  have handled := host.handled (.createTask parent)
  have opening : start.registry.Counted :=
    (books_of_create made).1 ▸ Registry.Counted.empty config.limits {}
  exact ⟨newborn, parting_of_create created nobody handled,
    fun _ => (going_of_create created nobody handled).2.2.symm,
    counted_of_course (.create made) opening (before.call (.createTask parent) rfl)⟩

theorem parts (unended : Unended serial thread host) (course : Course host moments last)
    (apt : ∀ moment ∈ moments, moment.isApt = true)
    (proper : ∀ moment ∈ moments, moment.isProper thread = true) :
    Parting thread moments last.roster := by
  let holds : List Moment → Host → Prop := fun past host =>
    host.roster.Numbered ∧ Registered host.roster ∧ Parting thread past host.roster ∧
      Waiting thread host
  have kept : holds moments last := by
    refine @Course.induction _ _ _ holds
      (fun moment => moment.isApt = true ∧ moment.isProper thread = true) course unended.orderly
      (fun moment inside => ⟨apt moment inside, proper moment inside⟩)
      ⟨unended.numbered, unended.registered, unended.parting, unended.waiting⟩ ?_
    rintro past _ host after next orderly fits ⟨numbered, registered, parting, waiting⟩
    cases next with
    | roused woken =>
      rw [List.append_nil]
      exact ⟨numbered, registered, parting, fun gated => waiting gated.of_rouse⟩
    | respun =>
      rw [List.append_nil]
      exact ⟨numbered, registered, parting, waiting⟩
    | began call accepted =>
      have handled := host.handled call
      obtain ⟨apt, proper⟩ := fits ⟨host, call⟩ (by simp)
      exact ⟨(handled.numbered numbered).1, registered.handled handled numbered apt,
        parting.handled registered numbered handled apt proper waiting,
        waiting.begin orderly numbered parting.kept proper⟩
  exact kept.2.2.1

end Unended

/-- A thread exits after some more steps of its own. -/
def Exits (thread : ThreadId) (host : Host) : Prop :=
  ∃ more after, Course host more after ∧ (∀ moment ∈ more, moment.call = .depart thread) ∧
    (after.control thread).exited = true

theorem Exits.of_step (exits : Exits thread (host.begin (.depart thread))) :
    Exits thread host := by
  obtain ⟨more, after, onward, own, exited⟩ := exits
  have first := (Course.start : Course host [] host).call (.depart thread) rfl
  refine ⟨_, after, first.append onward, fun moment inside => ?_, exited⟩
  rcases List.mem_append.1 inside with here | later
  · cases List.mem_singleton.1 here
    rfl
  · exact own moment later

/-- A thread has a number, and something is kept of it. -/
structure Stands (thread : ThreadId) (host : Host) : Prop where
  numbered : host.roster.Numbered
  known : thread.value < host.nextThread
  kept : host.roster.controls.contains thread = true

theorem Stands.begin (stands : Stands thread host) (call : Call) :
    Stands thread (host.begin call) := by
  have handled := host.handled call
  have more := handled.numbered stands.numbered
  exact ⟨more.1, Nat.lt_of_lt_of_le stands.known more.2, handled.kept stands.kept⟩

theorem Stands.course (stands : Stands thread host) (course : Course host moments last) :
    Stands thread last := by
  induction course with
  | start => exact stands
  | next _ next ih =>
    cases next with
    | began call => exact ih.begin call
    | roused | respun => exact ⟨ih.numbered, ih.known, ih.kept⟩

/-- A thread that ends gets there by its own steps. -/
theorem exits_of_leaving (stands : Stands thread host) {stage : Departure}
    (found : host.leaving.get? thread = some stage) : Exits thread host := by
  have marked : ∀ host : Host, Stands thread host →
      host.leaving.get? thread = some .marking → Exits thread host := by
    intro host stands found
    have exited := (host.handled (.depart thread)).exited stands.numbered fun _ => stands.kept
    refine .of_step ⟨[], _, .start, by simp, exited.trans ?_⟩
    simp [Moment.departs, found]
  have unlisted : ∀ host : Host, Stands thread host →
      host.leaving.get? thread = some .unlisting → Exits thread host := by
    intro host stands found
    refine .of_step (marked _ (stands.begin _) ((host.leaving_depart thread).trans ?_))
    rw [found]
    rfl
  cases stage with
  | marking => exact marked host stands found
  | unlisting => exact unlisted host stands found
  | unbinding =>
    refine .of_step (unlisted _ (stands.begin _) ((host.leaving_depart thread).trans ?_))
    rw [found]
    rfl

variable {config : Config} {opened : String → Except Error Trace.Sink} {earlier : List Moment}
  {parent : ThreadId}

/-- Whether the routine of a thread is over or the thread was called off, it begins to end. -/
theorem Newborn.leaving_of_end {early : List Moment} (newborn : Newborn serial thread host)
    (led : Course host early moment.host) (apt : ∀ other ∈ early, other.isApt = true)
    (ends : moment.call = .beginDeparture thread ∨
      moment.passesGate thread = true ∧ moment.runsRoutine thread = false) :
    moment.after.leaving.get? thread = some .unbinding := by
  rcases ends with ended | ⟨through, rests⟩
  · obtain ⟨host, call⟩ := moment
    cases ended
    exact Assoc.get?_insert_self ..
  · have lives := newborn.course led apt
    obtain ⟨_, runs, left⟩ := lives.passes (newborn.gated.course newborn.orderly led) through
    rw [left, ← runs, rests, if_neg Bool.false_ne_true]

/-- However the thread of a task that was created ends, it gets to its exit by its own steps, and it
has exited just when it took the last of them. Then it is in no domain, and it has no task and no
number of the runtime. It left the domain that it was in once: that domain counts one thread less
or, if the thread was its main thread, is gone, and its manager was told so once. Nothing else that
the thread did at its end bears on any domain. -/
theorem absent_of_exited (made : Host.create config opened = .ok start)
    (before : Course start earlier host) (created : (host.createTask parent).1 = .ok serial)
    (course : Course (host.begin (.createTask parent)) moments last)
    (own : ((host.begin (.createTask parent)).task serial).thread = thread)
    (apt : ∀ moment ∈ earlier ++ moments, moment.isApt = true)
    (proper : ∀ moment ∈ earlier ++ moments, moment.isProper thread = true) :
    ((last.control thread).exited = true ↔
      moments.any (Moment.departs thread .marking) = true) ∧
    ((last.control thread).exited = true →
      last.registry.bindings.get? thread = none ∧ last.tasks.live.get? thread = none ∧
        last.tasks.managed.get? thread = none ∧
        moments.countP (Moment.departs thread .unbinding) = 1) ∧
    (∀ moment ∈ moments, moment.call = .depart thread →
      ∃ notes, moment.after.notes = moment.host.notes ++ notes ∧
        if moment.host.leaving.get? thread = some .unbinding then
          Unbinds thread moment.host.registry moment.after.registry notes
        else notes = [] ∧ moment.after.registry = moment.host.registry) ∧
    (∀ moment ∈ moments, moment.call = .beginDeparture thread ∨
        moment.passesGate thread = true ∧ moment.runsRoutine thread = false →
      Exits thread moment.after) ∧
    (last.leaving.get? thread ≠ none → Exits thread last) := by
  have unended := Unended.create made before created own
    (fun moment inside => apt moment (List.mem_append_left _ inside))
    fun moment inside => proper moment (List.mem_append_left _ inside)
  have fit : ∀ moment ∈ moments, moment.isApt = true := fun moment inside =>
    apt moment (List.mem_append_right _ inside)
  have parting := unended.parts course fit fun moment inside =>
    proper moment (List.mem_append_right _ inside)
  have stands : Stands thread (host.begin (.createTask parent)) :=
    ⟨unended.numbered, unended.parting.known, unended.parting.kept⟩
  refine ⟨?_, fun exited => ?_, fun moment inside departs => ?_, fun moment inside ends => ?_,
    fun leaves => ?_⟩
  · rw [← parting.exits]
    rfl
  · have exited : (last.roster.control thread).exited = true := exited
    have left : last.roster.hasLeft thread = true := by simp [Roster.hasLeft, exited]
    have off : last.roster.isOff thread = true := by simp [Roster.isOff, exited]
    have once := parting.unbinds
    rw [left] at once
    exact ⟨parting.unbound left, (parting.unlisted off).1, (parting.unlisted off).2, once⟩
  · obtain ⟨early, late, rfl⟩ := List.append_of_mem inside
    have counted := counted_of_course unended.orderly unended.counted course.cut.1
    have unbinds := unbinds_depart counted thread
    rwa [← departs] at unbinds
  · obtain ⟨early, late, rfl⟩ := List.append_of_mem inside
    obtain ⟨led, _⟩ := course.cut
    have begins := unended.toNewborn.leaving_of_end led
      (fun other inside => fit other (List.mem_append_left _ inside)) ends
    exact exits_of_leaving ((stands.course led).begin moment.call) begins
  · obtain ⟨stage, found⟩ := Option.ne_none_iff_exists'.1 leaves
    exact exits_of_leaving (stands.course course) found

/-- A thread is started in the domain of its parent, makes a domain of its own, and ends. -/
def ownDomain : List Call :=
  [.startTask 0, .turn ⟨2⟩, .onDomains (.create ⟨8⟩ ⟨2⟩ "own"), .beginDeparture ⟨2⟩, .depart ⟨2⟩,
    .depart ⟨2⟩, .depart ⟨2⟩]

theorem absent_of_exited_ownDomain :
    ∃ start, Host.create {} (fun _ => .ok (.memory 0 [])) = .ok start ∧
      ∃ host last moments, host = start.heedAll [.spawn, .onDomains (.create ⟨7⟩ ⟨1⟩ "first")] ∧
        Course (host.begin (.createTask ⟨1⟩)) moments last ∧
        (last.control ⟨2⟩).exited = true ∧ last.registry.bindings.get? ⟨2⟩ = none ∧
        moments.countP (Moment.departs ⟨2⟩ .unbinding) = 1 := by
  have orderly := @Orderly.create {} (fun _ => .ok (.memory 0 [])) _ rfl
  have before := Course.heedAll .start orderly
    (show acceptsAll _ [.spawn, .onDomains (.create ⟨7⟩ ⟨1⟩ "first")] = true from rfl)
  have begun := (before.call (.createTask ⟨1⟩) rfl).orderly orderly
  have course := Course.heedAll .start begun (show acceptsAll _ ownDomain = true from rfl)
  obtain ⟨exits, absent, _⟩ :=
    @absent_of_exited _ _ _ _ ⟨2⟩ 0 {} (fun _ => .ok (.memory 0 [])) _ ⟨1⟩ rfl before
      (by decide +kernel) course (by decide +kernel) (by decide +kernel) (by decide +kernel)
  have exited := exits.2 (by decide +kernel)
  exact ⟨_, rfl, _, _, _, rfl, course, exited, (absent exited).1, (absent exited).2.2.2⟩

/-- The thread of a task runs, and its routine is over. -/
def aboutToEnd : List Call :=
  [.spawn, .onDomains (.create ⟨7⟩ ⟨1⟩ "first"), .createTask ⟨1⟩, .startTask 0, .turn ⟨2⟩,
    .beginDeparture ⟨2⟩]

/-- Another thread can bind one that has exited, or one that has left its domain and is about to
exit; either way it has exited and is in a domain. And if the thread exits after a call looked at
its task and before it stores the runtime's number, the table keeps the number. -/
theorem not_absent_aboutToEnd :
    ∃ start, Host.create {} (fun _ => .ok (.memory 0 [])) = .ok start ∧
      let host := start.heedAll aboutToEnd
      let bind := .onDomains (.acquireThread ⟨1⟩ ⟨2⟩)
      let after := host.heedAll [.depart ⟨2⟩, .depart ⟨2⟩, .depart ⟨2⟩, bind]
      let meanwhile := host.heedAll [.depart ⟨2⟩, bind, .depart ⟨2⟩, .depart ⟨2⟩]
      ((after.control ⟨2⟩).exited = true ∧ after.registry.bindings.get? ⟨2⟩ = some ⟨7⟩) ∧
      ((meanwhile.control ⟨2⟩).exited = true ∧
        meanwhile.registry.bindings.get? ⟨2⟩ = some ⟨7⟩) ∧
      (host.tasks.setLogical 0 5).isOk = true ∧
        ((after.tasks.storeLogical 0 5).addManaged ⟨2⟩ 5).managed.get? ⟨2⟩ = some 5 :=
  ⟨_, rfl, by decide +kernel, by decide +kernel, by decide +kernel, by decide +kernel⟩

end Steward.Host
