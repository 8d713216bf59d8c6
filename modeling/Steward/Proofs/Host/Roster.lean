import Steward.Proofs.Host.Begun

/-! The roster of a host: what it keeps of its threads, whose numbers, tasks and bindings are on it,
and which of them end. Most calls leave the roster alone. What the others do to it is said once. -/

set_option autoImplicit false

namespace Steward.Host

open Deadlock

/-- What a host keeps of its threads. -/
structure Roster where
  controls : Assoc ThreadId Tasks.Control
  nextThread : Nat
  tasks : Tasks.Table
  leaving : Assoc ThreadId Departure
  bindings : Assoc ThreadId DomainId

def roster (host : Host) : Roster :=
  ⟨host.controls, host.nextThread, host.tasks, host.leaving, host.registry.bindings⟩

/-- A thread that has a number is not the one that gets the next. -/
theorem ne_next_of_known {thread : ThreadId} {next : Nat} (known : thread.value < next) :
    thread ≠ ⟨next⟩ := by
  rintro rfl
  exact Nat.lt_irrefl _ known

namespace Roster

def control (roster : Roster) (thread : ThreadId) : Tasks.Control := roster.controls.getD thread {}

/-- One thread more. -/
def number (roster : Roster) (control : Tasks.Control) : Roster :=
  { roster with
    controls := roster.controls.insert ⟨roster.nextThread⟩ control
    nextThread := roster.nextThread + 1 }

/-- The gate of a thread moves, if it may. -/
def regate (roster : Roster) (thread : ThreadId) (gate : Tasks.Gate) : Roster :=
  match (roster.control thread).move? gate with
  | none => roster
  | some control => { roster with controls := roster.controls.insert thread control }

/-- The task of a thread is removed. A thread that was not started will not run. -/
def unlist (roster : Roster) (thread : ThreadId) : Roster :=
  if (roster.tasks.remove thread).1 then
    { roster with tasks := (roster.tasks.remove thread).2 }.regate thread .cancelled
  else { roster with tasks := (roster.tasks.remove thread).2 }

def modify (roster : Roster) (thread : ThreadId) (change : Tasks.Control → Tasks.Control) :
    Roster := { roster with controls := roster.controls.modify thread change }

def stage (roster : Roster) (thread : ThreadId) (departure : Departure) : Roster :=
  { roster with leaving := roster.leaving.insert thread departure }

/-- The end of a thread. -/
def close (roster : Roster) (thread : ThreadId) : Roster :=
  { roster.modify thread fun control => { control with exited := true } with
    leaving := roster.leaving.erase thread }

variable (roster : Roster) (thread other : ThreadId)

theorem control_number (control : Tasks.Control) :
    (roster.number control).control other =
      if other = ⟨roster.nextThread⟩ then control else roster.control other := by
  simp only [Roster.control, number, Assoc.getD, Assoc.get?_insert]
  split <;> rfl

theorem control_modify (change : Tasks.Control → Tasks.Control) :
    (roster.modify thread change).control other =
      if other = thread ∧ roster.controls.contains thread = true then
        change (roster.control thread)
      else roster.control other := by
  simp only [control, modify, Assoc.getD, Assoc.get?_modify, Assoc.contains]
  by_cases same : other = thread
  · subst same
    by_cases listed : (roster.controls.get? other).isSome = true
    · obtain ⟨control, found⟩ := Option.isSome_iff_exists.1 listed
      simp [found]
    · simp [Option.not_isSome_iff_eq_none.1 listed]
  · simp [same]

theorem control_regate (gate : Tasks.Gate) :
    (roster.regate thread gate).control other =
      if other = thread ∧ (roster.control thread).gate = .suspended then
        { roster.control thread with gate }
      else roster.control other := by
  unfold regate Tasks.Control.move?
  by_cases closed : (roster.control thread).gate = .suspended
  · simp only [closed, if_true, and_true]
    simp only [control, Assoc.getD, Assoc.get?_insert]
    split <;> rfl
  · simp only [closed, if_false, and_false]

theorem control_unlist :
    (roster.unlist thread).control other =
      if other = thread ∧ (roster.control thread).gate = .suspended ∧
          roster.tasks.live.contains thread = true then
        { roster.control thread with gate := .cancelled }
      else roster.control other := by
  have removes : (roster.tasks.remove thread).1 = roster.tasks.live.contains thread := by
    unfold Tasks.Table.remove Assoc.contains
    split <;> next found => rw [found]; rfl
  unfold unlist
  rw [removes]
  cases listed : roster.tasks.live.contains thread with
  | true =>
    rw [if_pos rfl, control_regate]
    simp only [and_true]
    rfl
  | false => simp [control]

section Reading

variable {α : Type} (read : Tasks.Control → α)

/-- What a change of a control does not bear on is read from it as before. -/
theorem read_modify {change : Tasks.Control → Tasks.Control}
    (keeps : ∀ control, read (change control) = read control) :
    read ((roster.modify thread change).control other) = read (roster.control other) := by
  rw [control_modify]
  split
  · next moves => rw [keeps, moves.1]
  · rfl

theorem read_regate (keeps : ∀ control gate, read { control with gate } = read control)
    (gate : Tasks.Gate) :
    read ((roster.regate thread gate).control other) = read (roster.control other) := by
  rw [control_regate]
  split
  · next moves => rw [keeps, moves.1]
  · rfl

theorem read_unlist (keeps : ∀ control gate, read { control with gate } = read control) :
    read ((roster.unlist thread).control other) = read (roster.control other) := by
  rw [control_unlist]
  split
  · next moves => rw [keeps, moves.1]
  · rfl

end Reading

@[simp] theorem tasks_regate (gate : Tasks.Gate) :
    (roster.regate thread gate).tasks = roster.tasks := by
  unfold regate
  split <;> rfl

@[simp] theorem nextThread_regate (gate : Tasks.Gate) :
    (roster.regate thread gate).nextThread = roster.nextThread := by
  unfold regate
  split <;> rfl

@[simp] theorem leaving_regate (gate : Tasks.Gate) :
    (roster.regate thread gate).leaving = roster.leaving := by
  unfold regate
  split <;> rfl

@[simp] theorem bindings_regate (gate : Tasks.Gate) :
    (roster.regate thread gate).bindings = roster.bindings := by
  unfold regate
  split <;> rfl

@[simp] theorem tasks_unlist : (roster.unlist thread).tasks = (roster.tasks.remove thread).2 := by
  unfold unlist
  split
  · exact tasks_regate _ _ _
  · rfl

@[simp] theorem nextThread_unlist : (roster.unlist thread).nextThread = roster.nextThread := by
  unfold unlist
  split
  · exact nextThread_regate _ _ _
  · rfl

@[simp] theorem leaving_unlist : (roster.unlist thread).leaving = roster.leaving := by
  unfold unlist
  split
  · exact leaving_regate _ _ _
  · rfl

@[simp] theorem bindings_unlist : (roster.unlist thread).bindings = roster.bindings := by
  unfold unlist
  split
  · exact bindings_regate _ _ _
  · rfl

/-- Something is kept of the same threads when a gate moves: only one that is kept is closed. -/
theorem contains_regate (gate : Tasks.Gate) :
    (roster.regate thread gate).controls.contains other = roster.controls.contains other := by
  unfold regate Tasks.Control.move?
  by_cases closed : (roster.control thread).gate = .suspended
  · have kept : roster.controls.contains thread = true := by
      unfold Roster.control Assoc.getD at closed
      cases found : roster.controls.get? thread with
      | none => simp [found] at closed
      | some control => simp [Assoc.contains, found]
    simp only [closed, if_true, Assoc.contains_insert]
    by_cases same : other = thread
    · simp [same, kept]
    · simp [same]
  · simp only [closed, if_false]

theorem contains_unlist :
    (roster.unlist thread).controls.contains other = roster.controls.contains other := by
  unfold unlist
  split
  · exact contains_regate ..
  · rfl

/-- Threads of which something is kept have numbers that were given. -/
def Numbered (roster : Roster) : Prop :=
  ∀ thread, roster.controls.contains thread = true → thread.value < roster.nextThread

variable {roster thread}

theorem control_of_absent (absent : roster.controls.contains thread = false) :
    roster.control thread = {} := by
  have missing : roster.controls.get? thread = none := by simpa [Assoc.contains] using absent
  rw [control, Assoc.getD, missing]
  rfl

theorem Numbered.control_new (numbered : roster.Numbered) :
    roster.control ⟨roster.nextThread⟩ = {} := by
  refine control_of_absent (Bool.eq_false_iff.2 fun there => ?_)
  exact absurd (numbered _ there) (Nat.lt_irrefl _)

/-- What a new control has in common with none at all is read as before. -/
theorem Numbered.read_number {α : Type} (numbered : roster.Numbered) (read : Tasks.Control → α)
    {control : Tasks.Control} (blank : read control = read {}) (other : ThreadId) :
    read ((roster.number control).control other) = read (roster.control other) := by
  rw [control_number]
  split
  · next new => rw [new, numbered.control_new, blank]
  · rfl

theorem Numbered.number (numbered : roster.Numbered) (control : Tasks.Control) :
    (roster.number control).Numbered := by
  intro other there
  rw [Roster.number, Assoc.contains_insert] at there
  simp only [Bool.or_eq_true, decide_eq_true_eq] at there
  rcases there with rfl | there
  · exact Nat.lt_succ_self _
  · exact Nat.lt_succ_of_lt (numbered other there)

theorem Numbered.modify (numbered : roster.Numbered) (change : Tasks.Control → Tasks.Control) :
    (roster.modify thread change).Numbered := by
  intro other there
  rw [Roster.modify, Assoc.contains_modify] at there
  exact numbered other there

theorem Numbered.regate (numbered : roster.Numbered) (gate : Tasks.Gate) :
    (roster.regate thread gate).Numbered := by
  intro other there
  rw [contains_regate] at there
  rw [nextThread_regate]
  exact numbered other there

theorem Numbered.unlist (numbered : roster.Numbered) : (roster.unlist thread).Numbered := by
  intro other there
  rw [contains_unlist] at there
  rw [nextThread_unlist]
  exact numbered other there

end Roster

variable {host after : Host} {thread : ThreadId}

/-! ### What leaves the roster alone -/

theorem Rouses.roster (rouses : Rouses host after) : after.roster = host.roster := by
  obtain ⟨_, rfl⟩ := rouses
  rfl

@[simp] theorem roster_begin (host : Host) (call : Call) :
    (host.begin call).roster = (host.heed call).roster := by
  cases call <;> rfl

@[simp] theorem registry_begin (host : Host) (call : Call) :
    (host.begin call).registry = (host.heed call).registry := by
  cases call <;> rfl

@[simp] theorem roster_wakeOne (host : Host) (target : Target) :
    (host.wakeOne target).roster = host.roster := (host.rouses_wakeOne target).roster

@[simp] theorem roster_wakeAll (host : Host) (target : Target) :
    (host.wakeAll target).roster = host.roster := rfl

@[simp] theorem roster_deliverAll (host : Host) (wakeUps : List WakeUp) :
    (host.deliverAll wakeUps).roster = host.roster := (host.rouses_deliverAll wakeUps).roster

@[simp] theorem roster_adopt (host : Host) (registry : Domain.Registry) :
    (host.adopt registry).roster = { host.roster with bindings := registry.bindings } := by
  rw [adopt, wakeSome_eq_deliverAll, roster_deliverAll]
  rfl

@[simp] theorem roster_startWait (host : Host) (thread : ThreadId) (target : Target)
    (timeout : Option Nat) (options : Sync.WaitOptions) (purpose : Purpose) :
    (host.startWait thread target timeout options purpose).roster = host.roster := rfl

@[simp] theorem roster_endEnter (host : Host) (thread : ThreadId) :
    (host.endEnter thread).roster = host.roster := rfl

@[simp] theorem roster_setSignal (host : Host) (serial : Nat) :
    (host.setSignal serial).roster = host.roster := by
  unfold setSignal
  split
  · rfl
  · simp only
    split
    · rfl
    · exact roster_wakeOne _ _

@[simp] theorem roster_setMonitor (host : Host) (thread : ThreadId) (serial : Nat)
    (cookie : Cookie) : (host.setMonitor thread serial cookie).roster = host.roster :=
  host.roster_setSignal serial

theorem roster_askOwner (host : Host) (asker : ThreadId) (cookie : Cookie) :
    (askOwner asker cookie host).2.roster = host.roster := by
  unfold askOwner
  simp only
  cases (host.owners.next cookie).1.endEnter with
  | none =>
    split
    · exact roster_setMonitor _ _ _ _
    · rfl
  | some thread =>
    split
    · exact roster_setMonitor _ _ _ _
    · rfl

@[simp] theorem roster_detect (host : Host) (asker thread : ThreadId) (cookie : Cookie) :
    (host.detect asker thread cookie).2.roster = host.roster := by
  let holds : Host → Prop := fun other => other.roster = host.roster
  have asked : ∀ world, holds world → ∀ cookie, holds (askOwner asker cookie world).2 :=
    fun world same cookie => (world.roster_askOwner asker cookie).trans same
  unfold detect
  split
  · exact @Oracle.follow_keeps _ (oracle asker) holds asked _ host rfl
  · rfl

@[simp] theorem roster_tryEnter (host : Host) (asker thread : ThreadId) (cookie : Cookie) :
    (host.tryEnter asker thread cookie).2.roster = host.roster :=
  roster_detect _ asker thread cookie

theorem roster_sliceOver (host : Host) (thread : ThreadId) (wait : Wait) (cookie : Cookie)
    (backoff : Backoff) : (host.sliceOver thread wait cookie backoff).2.roster = host.roster := by
  have looked := host.roster_tryEnter thread thread cookie
  unfold sliceOver
  simp only
  split
  · exact looked
  · split <;> exact looked

theorem roster_noteAcquired (host : Host) (thread : ThreadId) (cookie : Cookie) (ending : Ending) :
    (host.noteAcquired thread cookie ending).roster = host.roster := by
  unfold noteAcquired
  split <;> rfl

theorem Takes.roster {target : Target} {ending : Ending}
    (takes : Takes host thread target ending after) : after.roster = host.roster := by
  cases takes <;> rfl

theorem roster_whenIdle {begun : Host} (same : begun.roster = host.roster) (thread : ThreadId) :
    (host.whenIdle thread begun).roster = host.roster := by
  unfold whenIdle
  split
  · exact same
  · rfl

theorem roster_releaseSemaphore (host : Host) (serial slots : Nat) (semaphore : Sync.Semaphore) :
    (host.releaseSemaphore serial slots semaphore).2.roster = host.roster := by
  unfold releaseSemaphore
  split
  · rfl
  · simp only [wakeSome_eq_deliverAll, roster_deliverAll]
    rfl

theorem roster_leaveLock (host : Host) (thread : ThreadId) (serial : Nat)
    (lock : Sync.CriticalSection) :
    (host.leaveLock thread serial lock).2.roster = host.roster := by
  unfold leaveLock
  split
  · rfl
  · simp only
    split
    · exact roster_wakeOne _ _
    · rfl

@[simp] theorem roster_startMonitorWait (host : Host) (thread : ThreadId) (serial : Nat)
    (cookie : Cookie) (timeout : Option Nat) (options : Sync.WaitOptions) :
    (host.startMonitorWait thread serial cookie timeout options).roster = host.roster := by
  unfold startMonitorWait
  split <;> rfl

@[simp] theorem roster_alert (host : Host) (thread : ThreadId) :
    (host.alert thread).roster =
      host.roster.modify thread fun control => { control with alerted := true } := by
  unfold alert
  simp only
  split
  · split <;> rfl
  · rfl

/-! ### What changes the roster -/

@[simp] theorem roster_moveGate (host : Host) (thread : ThreadId) (gate : Tasks.Gate) :
    (host.moveGate thread gate).2.roster = host.roster.regate thread gate := by
  have same : host.roster.control thread = host.control thread := rfl
  unfold moveGate Roster.regate
  rw [same]
  cases (host.control thread).move? gate <;> rfl

@[simp] theorem roster_startTask (host : Host) (serial : Nat) :
    (host.startTask serial).2.roster = host.roster.regate (host.task serial).thread .running := by
  have moved := host.roster_moveGate (host.task serial).thread .running
  unfold startTask
  simp only
  split <;> next made => rwa [made] at moved

@[simp] theorem roster_removeTask (host : Host) (thread : ThreadId) :
    (host.removeTask thread).2.roster = host.roster.unlist thread := by
  have same : host.roster.tasks = host.tasks := rfl
  unfold removeTask Roster.unlist
  rw [same]
  simp only
  split
  · exact roster_moveGate _ _ _
  · rfl

@[simp] theorem roster_releaseThread (host : Host) (thread : ThreadId) :
    (host.releaseThread thread).2.roster = { host.roster with
      bindings := (host.registry.perform (.releaseThread thread)).bindings } := by
  have performed : host.registry.perform (.releaseThread thread) =
    host.registry.orElse ((host.registry.releaseThread thread).map Prod.snd) := rfl
  rw [performed]
  unfold releaseThread
  split
  · next failed => simp only [failed]; rfl
  · next made => simp only [made]; exact host.roster_adopt _
  · next made => simp only [made]; exact host.roster_adopt _

/-- The operation on the register that a call is. -/
def Call.asks : Call → Option Domain.Operation
  | .onDomains operation => some operation
  | .releaseThread thread => some (.releaseThread thread)
  | .hear (.domainUnloaded domain) => some (.unload domain)
  | _ => none

/-- A call that can leave the roster alone. -/
def Call.canSpare : Call → Bool
  | .spawn | .createTask _ | .startTask _ | .removeTask _ | .currentTask _ | .addManaged _ _
  | .alert _ | .beginDeparture _ | .depart _ | .turn _ => false
  | _ => true

/-- What a call does to the roster. -/
inductive Handled (host : Host) : Call → Roster → Prop where
  | spared {call : Call} (spares : call.canSpare = true) : Handled host call host.roster
  | asked {call : Call} {operation : Domain.Operation} (asks : call.asks = some operation) :
      Handled host call
        { host.roster with bindings := (host.registry.perform operation).bindings }
  | spawned : Handled host .spawn (host.roster.number {})
  | refused {parent : ThreadId} {error : Error}
      (denied : (host.createTask parent).1 = .error error) :
      Handled host (.createTask parent) (host.roster.number .suspended)
  | created {parent : ThreadId} (made : (host.createTask parent).1 = .ok host.tasks.made) :
      Handled host (.createTask parent) { host.roster.number .suspended with
        tasks := (host.tasks.add ⟨host.nextThread⟩).2
        bindings := (host.registry.perform (.reserveThread parent ⟨host.nextThread⟩)).bindings }
  | started (serial : Nat) : Handled host (.startTask serial)
      (host.roster.regate (host.task serial).thread .running)
  | removed (thread : ThreadId) : Handled host (.removeTask thread) (host.roster.unlist thread)
  | found (thread : ThreadId) : Handled host (.currentTask thread)
      { host.roster with tasks := (host.tasks.find thread).2 }
  | told {serial managed : Nat} {tasks : Tasks.Table}
      (made : host.tasks.setLogical serial managed = .ok tasks) :
      Handled host (.setLogical serial managed) { host.roster with tasks }
  | noted (thread : ThreadId) (managed : Nat) : Handled host (.addManaged thread managed)
      { host.roster with tasks := host.tasks.addManaged thread managed }
  | ranked (caller : ThreadId) (serial : Nat) (level : Int) (priority : Tasks.Priority) :
      Handled host (.setPriority caller serial level)
        (host.roster.modify (host.task serial).thread fun control => { control with priority })
  | alerted (thread : ThreadId) : Handled host (.alert thread)
      (host.roster.modify thread fun control => { control with alerted := true })
  | ended (thread : ThreadId) : Handled host (.beginDeparture thread)
      (host.roster.stage thread .unbinding)
  | stayed {thread : ThreadId} (stage : host.leaving.get? thread = none) :
      Handled host (.depart thread) host.roster
  | unbound {thread : ThreadId} (stage : host.leaving.get? thread = some .unbinding) :
      Handled host (.depart thread) (Roster.stage { host.roster with
        bindings := (host.registry.perform (.releaseThread thread)).bindings } thread .unlisting)
  | unlisted {thread : ThreadId} (stage : host.leaving.get? thread = some .unlisting) :
      Handled host (.depart thread) ((host.roster.unlist thread).stage thread .marking)
  | closed {thread : ThreadId} (stage : host.leaving.get? thread = some .marking) :
      Handled host (.depart thread) (host.roster.close thread)
  /-- A wait was interrupted, which uses the alert up. -/
  | interrupted {thread : ThreadId} {wait : Wait} {ending : Ending} {looked : Host}
      (seen : host.glimpse thread = some (wait, ending, looked))
      (outcome : ending.outcome = .interrupted) : Handled host (.turn thread)
        (host.roster.modify thread fun control => { control with alerted := false })
  /-- A thread learned at its gate that it will not run. -/
  | dismissed {thread : ThreadId} {wait : Wait} {ending : Ending} {looked : Host}
      (seen : host.glimpse thread = some (wait, ending, looked)) (purpose : wait.purpose = .start)
      (outcome : ending.outcome = .abandoned) : Handled host (.turn thread)
        (host.roster.stage thread .unbinding)
  /-- A turn that did neither. -/
  | turned {thread : ThreadId}
      (otherwise : ∀ wait ending looked, host.glimpse thread = some (wait, ending, looked) →
        ending.outcome ≠ .interrupted ∧
          (wait.purpose = .start → ending.outcome ≠ .abandoned)) :
      Handled host (.turn thread) host.roster

theorem handled_createTask (host : Host) (parent : ThreadId) :
    Handled host (.createTask parent) (host.createTask parent).2.roster := by
  cases reserved : host.registry.reserveThread parent ⟨host.nextThread⟩ with
  | mk outcome registry =>
    have numbered : (host.addThread .suspended).2.registry.reserveThread parent
        (host.addThread .suspended).1 = (outcome, registry) := reserved
    have performed : (host.registry.perform (.reserveThread parent ⟨host.nextThread⟩)).bindings =
        registry.bindings := congrArg (fun made => made.2.bindings) reserved
    cases outcome with
    | error error =>
      have same : registry.bindings = host.registry.bindings := by
        unfold Domain.Registry.reserveThread at reserved
        split at reserved
        · cases reserved
        · split at reserved
          · cases reserved
            rfl
          · split at reserved <;> cases reserved
            rfl
      have refused : (host.createTask parent).2.roster = host.roster.number .suspended := by
        simp only [createTask, numbered, roster_adopt, same]
        rfl
      have denied : (host.createTask parent).1 = .error error := by
        simp only [createTask, numbered]
      exact refused ▸ .refused denied
    | ok domain =>
      have granted : (host.createTask parent).1 = .ok host.tasks.made := by
        simp only [createTask, numbered]
        rfl
      have created := Handled.created granted
      rw [performed] at created
      have roster : (host.createTask parent).2.roster = { host.roster.number .suspended with
          tasks := (host.tasks.add ⟨host.nextThread⟩).2
          bindings := registry.bindings } := by
        have adopted := (host.addThread .suspended).2.roster_adopt registry
        simp only [createTask, numbered, roster_startWait]
        exact congrArg (fun roster : Roster =>
          { roster with tasks := (host.tasks.add ⟨host.nextThread⟩).2 }) adopted
      exact roster ▸ created

/-- What a thread waits for is there, or it learns that it will not run. -/
theorem outcome_of_take? {target : Target} {ending : Ending}
    (taken : host.take? thread target = some (ending, after)) :
    ending.outcome = .signaled ∨ ending.outcome = .abandoned := by
  have takes := takes_of_take? taken
  cases takes with
  | signal | semaphore | lock | notice => exact .inl rfl
  | passed apart unqueued lasting =>
    cases target with
    | signal | semaphore | lock => cases apart
    | notice => exact absurd rfl unqueued
    | gate other =>
      simp only [take?] at taken
      split at taken <;> cases taken
      · exact .inl rfl
      · exact .inr rfl
    | exit | workers =>
      simp only [take?] at taken
      split at taken <;> cases taken
      exact .inl rfl
    | sleep => cases taken

/-- An attempt is interrupted just when it uses up an alert. -/
theorem roster_attempt {wait : Wait} {ending : Ending}
    (made : host.attempt thread wait = (some ending, after)) :
    if ending.outcome = .interrupted then
      wait.options.alertable = true ∧ host.isAlerted thread = true ∧ after.roster =
        host.roster.modify thread fun control => { control with alerted := false }
    else after.roster = host.roster := by
  have cleared : (host.clearAlert thread).roster =
      host.roster.modify thread fun control => { control with alerted := false } := rfl
  unfold attempt look at made
  split at made
  · next forestalled =>
    cases made
    simp only [Bool.and_eq_true] at forestalled
    rw [if_pos rfl, passOn_eq_deliverAll, roster_deliverAll]
    exact ⟨forestalled.1.2, forestalled.2, cleared⟩
  · split at made
    · next taken =>
      cases made
      have apart : ending.outcome ≠ .interrupted := by
        rcases outcome_of_take? taken with signaled | abandoned
        · rw [signaled]; nofun
        · rw [abandoned]; nofun
      rw [if_neg apart]
      exact (takes_of_take? taken).roster
    · split at made
      · next alerted =>
        cases made
        simp only [Bool.and_eq_true] at alerted
        exact ⟨alerted.1, alerted.2, cleared⟩
      · split at made <;> cases made
        rfl

theorem roster_of_glimpse_eq_none (unseen : host.glimpse thread = none) :
    (host.turn thread).2.roster = host.roster := by
  rcases turn_of_unseen unseen with same | ⟨wait, _, _, dozed⟩
  · rw [same]
  · rw [dozed]
    rfl

/-- What follows a wait changes the roster only when it is a start that was called off. -/
theorem roster_conclude (host : Host) (thread : ThreadId) (wait : Wait) (ending : Ending) :
    (host.conclude thread wait ending).2.roster =
      if wait.purpose = .start ∧ ending.outcome = .abandoned then
        host.roster.stage thread .unbinding
      else host.roster := by
  unfold conclude
  cases purpose : wait.purpose with
  | plain | sleep | shutdown => rfl
  | monitor cookie => simpa using host.roster_noteAcquired thread cookie ending
  | watched cookie backoff =>
    simp only
    split
    · simpa using host.roster_sliceOver thread wait cookie backoff
    · simpa using (host.endEnter thread).roster_noteAcquired thread cookie ending
  | start =>
    by_cases abandoned : ending.outcome = .abandoned
    · simp only [abandoned, if_true, and_self]
      rfl
    · simp only [abandoned, if_false, and_false]

theorem handled_turn (host : Host) (thread : ThreadId) :
    Handled host (.turn thread) (host.turn thread).2.roster := by
  cases seen : host.glimpse thread with
  | none =>
    rw [roster_of_glimpse_eq_none seen]
    exact .turned (by simp [seen])
  | some sight =>
    obtain ⟨wait, ending, looked⟩ := sight
    obtain ⟨_, _, made⟩ := attempt_of_glimpse seen
    have tried := roster_attempt made
    have away : (host.away thread).roster = host.roster := rfl
    rw [(glimpse_eq_some seen).2.1, roster_conclude]
    rw [away] at tried
    by_cases outcome : ending.outcome = .interrupted
    · rw [if_pos outcome] at tried
      rw [if_neg (by simp [outcome]), tried.2.2]
      exact .interrupted seen outcome
    · rw [if_neg outcome] at tried
      rw [tried]
      split
      · next dismissed => exact .dismissed seen dismissed.1 dismissed.2
      · next passed =>
        refine .turned fun other made left again => ?_
        cases seen.symm.trans again
        exact ⟨outcome, fun starts abandoned => passed ⟨starts, abandoned⟩⟩

theorem handled_depart (host : Host) (thread : ThreadId) :
    Handled host (.depart thread) (host.depart thread).roster := by
  unfold depart
  split
  · next stage => exact .stayed stage
  · next stage =>
    have handled := Handled.unbound stage
    rwa [← host.roster_releaseThread thread] at handled
  · next stage =>
    have handled := Handled.unlisted stage
    rwa [← host.roster_removeTask thread] at handled
  · next stage => exact .closed stage

theorem Handled.of_same {call : Call} (spares : call.canSpare = true)
    (same : after.roster = host.roster) : Handled host call after.roster := same ▸ .spared spares

/-- What a call does to the roster, whoever calls. -/
theorem handled_heed (host : Host) (call : Call) : Handled host call (host.heed call).roster := by
  cases call with
  | onDomains operation =>
    rw [heed, roster_adopt]
    exact .asked rfl
  | post event | purge domain =>
    rw [heed, roster_adopt]
    exact .spared rfl
  | escalate action =>
    refine .of_same rfl ?_
    simp only [heed, escalated]
    split <;> rfl
  | hear event =>
    cases event with
    | domainUnloaded domain =>
      have asks : (Call.hear (.domainUnloaded domain)).asks = some (.unload domain) := rfl
      have heard : (host.heed (.hear (.domainUnloaded domain))).roster = { host.roster with
          bindings := (host.registry.perform (.unload domain)).bindings } := by
        simp only [heed, onRuntimeEvent, roster_adopt]
        rfl
      exact heard ▸ .asked asks
    | disabled | assistantFired | stackOverflow => exact .spared rfl
  | spawn => exact .spawned
  | createTask parent => exact host.handled_createTask parent
  | startTask serial =>
    rw [heed, roster_startTask]
    exact .started serial
  | removeTask thread =>
    rw [heed, roster_removeTask]
    exact .removed thread
  | currentTask thread => exact .found thread
  | setLogical serial managed =>
    simp only [heed]
    split
    · next made => exact .told made
    · exact .spared rfl
  | addManaged thread managed => exact .noted thread managed
  | setPriority caller serial level =>
    simp only [heed, setPriority]
    split
    · exact .spared rfl
    · next verdict _ =>
      cases verdict with
      | none => exact .spared rfl
      | some priority => exact .ranked caller serial level priority
  | alert thread =>
    rw [heed, roster_alert]
    exact .alerted thread
  | releaseThread thread =>
    rw [heed, roster_releaseThread]
    exact .asked rfl
  | beginDeparture thread => exact .ended thread
  | depart thread => exact host.handled_depart thread
  | turn thread => exact host.handled_turn thread
  | wait thread | sleep thread | shutdown thread =>
    rw [heed]
    exact .of_same rfl (roster_whenIdle (by rfl) thread)
  | monitorWait thread =>
    rw [heed]
    exact .of_same rfl (roster_whenIdle (roster_startMonitorWait ..) thread)
  | restCrew => exact .of_same rfl host.rouses_restCrew.roster
  | setSignal serial => exact .of_same rfl (host.roster_setSignal serial)
  | setMonitor thread serial cookie =>
    exact .of_same rfl (host.roster_setMonitor thread serial cookie)
  | releaseSemaphore serial slots =>
    refine .of_same rfl ?_
    simp only [heed]
    split
    · exact roster_releaseSemaphore host serial slots _
    · rfl
  | tryLock thread serial =>
    simp only [heed]
    split <;> exact .spared rfl
  | leaveLock thread serial =>
    refine .of_same rfl ?_
    simp only [heed]
    split
    · exact roster_leaveLock host thread serial _
    · rfl
  | tryEnter asker thread cookie => exact .of_same rfl (host.roster_tryEnter asker thread cookie)
  | detect asker thread cookie => exact .of_same rfl (host.roster_detect asker thread cookie)
  | elapse | addSignal | clearSignal | addSemaphore | addLock | installOracle | own | disown
  | prepare | nameMonitor | takeAsked | endEnter | elsewhere => exact .spared rfl

theorem handled (host : Host) (call : Call) : Handled host call (host.begin call).roster := by
  rw [roster_begin]
  exact host.handled_heed call

/-- Numbers go on being given in order. -/
theorem Handled.numbered {call : Call} {after : Roster} (handled : Handled host call after)
    (numbered : host.roster.Numbered) :
    after.Numbered ∧ host.nextThread ≤ after.nextThread := by
  cases handled with
  | spared | asked | found | told | noted | ended | stayed | unbound | dismissed | turned =>
    exact ⟨numbered, Nat.le_refl _⟩
  | spawned | refused | created => exact ⟨numbered.number _, Nat.le_succ _⟩
  | started =>
    exact ⟨numbered.regate _, Nat.le_of_eq (Roster.nextThread_regate host.roster _ _).symm⟩
  | removed | unlisted =>
    exact ⟨numbered.unlist, Nat.le_of_eq (Roster.nextThread_unlist host.roster _).symm⟩
  | ranked | alerted | closed | interrupted => exact ⟨numbered.modify _, Nat.le_refl _⟩

end Steward.Host
