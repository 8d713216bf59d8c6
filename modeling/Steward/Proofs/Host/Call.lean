import Steward.Host.Crew
import Steward.Host.RuntimeEvent
import Steward.Host.Threads
import Steward.Proofs.Host.Act
import Steward.Proofs.Host.Steady

/-! Runs of calls on a host, in which threads come and go, wait for each other and take their turns
in any order. Who waits can do nothing else meanwhile. A call bears on the domains as one operation
on the register does, or not at all. -/

set_option autoImplicit false

namespace Steward.Host

open Deadlock

/-- What is done to a host, by its threads or from outside. -/
inductive Call where
  | onDomains (operation : Domain.Operation)
  | post (event : Domain.Event)
  | purge (domain : DomainId)
  | escalate (action : Policy.Action)
  | hear (event : RuntimeEvent)
  | spawn
  | createTask (parent : ThreadId)
  | startTask (serial : Nat)
  | removeTask (thread : ThreadId)
  | currentTask (thread : ThreadId)
  | setLogical (serial managed : Nat)
  | addManaged (thread : ThreadId) (managed : Nat)
  | setPriority (caller : ThreadId) (serial : Nat) (level : Int)
  | alert (thread : ThreadId)
  | releaseThread (thread : ThreadId)
  | beginDeparture (thread : ThreadId)
  | depart (thread : ThreadId)
  | wait (thread : ThreadId) (target : Target) (timeout : Option Nat) (options : Sync.WaitOptions)
  | sleep (thread : ThreadId) (span : Nat) (options : Sync.WaitOptions)
  | monitorWait (thread : ThreadId) (serial : Nat) (cookie : Cookie) (timeout : Option Nat)
      (options : Sync.WaitOptions)
  | shutdown (thread : ThreadId) (timeout : Nat)
  | turn (thread : ThreadId)
  | elapse (clock : Nat)
  | addSignal (signal : Sync.Signal)
  | setSignal (serial : Nat)
  | clearSignal (serial : Nat)
  | addSemaphore (semaphore : Sync.Semaphore)
  | releaseSemaphore (serial slots : Nat)
  | addLock (lock : Sync.CriticalSection)
  | tryLock (thread : ThreadId) (serial : Nat)
  | leaveLock (thread : ThreadId) (serial : Nat)
  | setMonitor (thread : ThreadId) (serial : Nat) (cookie : Cookie)
  | installOracle
  | own (cookie : Cookie) (thread : ThreadId)
  | disown (cookie : Cookie)
  | prepare (cookie : Cookie) (answers : List Prepared)
  | nameMonitor (name : String) (serial : Nat) (cookie : Cookie)
  | takeAsked
  | tryEnter (asker thread : ThreadId) (cookie : Cookie)
  | detect (asker thread : ThreadId) (cookie : Cookie)
  | endEnter (thread : ThreadId)
  | restCrew
  /-- Whatever happens to memory, channels, work items and the lock trace: they are as in another
  host from now on. -/
  | elsewhere (other : Host)

/-- A thread that was given a number and waits for nothing. -/
def isIdle (host : Host) (thread : ThreadId) : Bool :=
  decide (thread.value < host.nextThread) && !host.waits.contains thread

/-- What a thread begins when it is idle. -/
def whenIdle (host : Host) (thread : ThreadId) (begun : Host) : Host :=
  if host.isIdle thread then begun else host

def heed (host : Host) : Call → Host
  | .onDomains operation => host.adopt (host.registry.perform operation)
  | .post event => host.adopt (host.registry.post event)
  | .purge domain =>
      host.adopt { host.registry with events := (host.registry.events.purge domain).2 }
  | .escalate action => host.escalated action
  | .hear event => host.onRuntimeEvent event
  | .spawn => host.spawn.2
  | .createTask parent => (host.createTask parent).2
  | .startTask serial => (host.startTask serial).2
  | .removeTask thread => (host.removeTask thread).2
  | .currentTask thread => (host.currentTask thread).2
  | .setLogical serial managed =>
      match host.tasks.setLogical serial managed with
      | .ok tasks => { host with tasks }
      | .error _ => host
  | .addManaged thread managed => { host with tasks := host.tasks.addManaged thread managed }
  | .setPriority caller serial level => (host.setPriority caller serial level).2
  | .alert thread => host.alert thread
  | .releaseThread thread => (host.releaseThread thread).2
  | .beginDeparture thread => host.beginDeparture thread
  | .depart thread => host.depart thread
  | .wait thread target timeout options =>
      host.whenIdle thread (host.startWait thread target timeout options .plain)
  | .sleep thread span options =>
      host.whenIdle thread (host.startWait thread (.sleep thread) (some span) options .sleep)
  | .monitorWait thread serial cookie timeout options =>
      host.whenIdle thread (host.startMonitorWait thread serial cookie timeout options)
  | .shutdown thread timeout => host.whenIdle thread (host.startShutdown thread timeout)
  | .turn thread => (host.turn thread).2
  | .elapse clock => host.elapse clock
  | .addSignal signal => (host.addSignal signal).2
  | .setSignal serial => host.setSignal serial
  | .clearSignal serial => host.clearSignal serial
  | .addSemaphore semaphore => (host.addSemaphore semaphore).2
  | .releaseSemaphore serial slots =>
      match host.semaphores.get? serial with
      | some semaphore => (host.releaseSemaphore serial slots semaphore).2
      | none => host
  | .addLock lock => (host.addLock lock).2
  | .tryLock thread serial =>
      match (host.locks.get? serial).bind fun lock => lock.enter? thread with
      | some entered => { host with locks := host.locks.insert serial entered }
      | none => host
  | .leaveLock thread serial =>
      match host.locks.get? serial with
      | some lock => (host.leaveLock thread serial lock).2
      | none => host
  | .setMonitor thread serial cookie => host.setMonitor thread serial cookie
  | .installOracle => { host with detector := { host.detector with hasOracle := true } }
  | .own cookie thread => { host with owners := host.owners.own cookie thread }
  | .disown cookie => { host with owners := host.owners.disown cookie }
  | .prepare cookie answers => { host with owners := host.owners.prepare cookie answers }
  | .nameMonitor name serial cookie =>
      { host with owners := host.owners.nameMonitor name serial cookie }
  | .takeAsked => { host with owners := host.owners.takeAsked.2 }
  | .tryEnter asker thread cookie => (host.tryEnter asker thread cookie).2
  | .detect asker thread cookie => (host.detect asker thread cookie).2
  | .endEnter thread => host.endEnter thread
  | .restCrew => host.restCrew
  | .elsewhere other =>
      { host with
        heaps := other.heaps
        blocks := other.blocks
        space := other.space
        memoryWatched := other.memoryWatched
        crew := other.crew
        workItems := other.workItems
        collection := other.collection
        trace := other.trace }

def heedAll (host : Host) (calls : List Call) : Host := calls.foldl heed host

/-- What holds at first and is kept by every call of a run holds after it. -/
theorem heedAll_induction {holds : Host → Prop} {start : Host} (calls : List Call)
    (initial : holds start)
    (keeps : ∀ host, ∀ call ∈ calls, holds host → holds (host.heed call)) :
    holds (start.heedAll calls) := by
  induction calls generalizing start with
  | nil => exact initial
  | cons call rest ih =>
    exact ih (keeps start call (by simp) initial) fun host other inside =>
      keeps host other (List.mem_cons_of_mem _ inside)

/-- A call that puts a thread into a domain whatever the cap. -/
def Call.forces : Call → Bool
  | .onDomains operation => operation.forces
  | _ => false

/-- What a call can do to who is in which domain. -/
inductive Bearing (call : Call) (before after : Domain.Registry) : Prop where
  | aside (same : before.SameMembers after)
  | asked (operation : Domain.Operation)
      (free : operation.forces = true → call.forces = true)
      (same : (before.perform operation).SameMembers after)

/-! ### Waking and tasks -/

theorem steady_adopt (host : Host) (registry : Domain.Registry) :
    Steady { host with registry } (host.adopt registry) := steady_wakeSome _ _ _

theorem steady_alert (host : Host) (thread : ThreadId) : Steady host (host.alert thread) := by
  have alerted : Steady host { host with controls := host.controls.modify thread fun control =>
      { control with alerted := true } } := .of_same rfl rfl rfl rfl rfl
  unfold alert
  simp only
  split
  · split
    · exact alerted.trans (steady_wakeAll _ _)
    · exact alerted
  · exact alerted

theorem steady_moveGate (host : Host) (thread : ThreadId) (gate : Tasks.Gate) :
    Steady host (host.moveGate thread gate).2 := by
  unfold moveGate
  split
  · exact .refl host
  · next control _ =>
    have moved : Steady host { host with controls := host.controls.insert thread control } :=
      .of_same rfl rfl rfl rfl rfl
    exact moved.trans (steady_wakeAll _ _)

theorem steady_startTask (host : Host) (serial : Nat) :
    Steady host (host.startTask serial).2 := by
  have moved := host.steady_moveGate (host.task serial).thread .running
  unfold startTask
  simp only
  split
  · next made => rwa [made] at moved
  · next made => rwa [made] at moved

theorem steady_removeTask (host : Host) (thread : ThreadId) :
    Steady host (host.removeTask thread).2 := by
  have left : Steady host { host with tasks := (host.tasks.remove thread).2 } :=
    .of_same rfl rfl rfl rfl rfl
  unfold removeTask
  simp only
  split
  · exact left.trans (steady_moveGate _ _ _)
  · exact left

theorem steady_setPriority (host : Host) (caller : ThreadId) (serial : Nat) (level : Int) :
    Steady host (host.setPriority caller serial level).2 := by
  unfold setPriority
  split
  · exact .refl host
  · next verdict _ =>
    cases verdict with
    | none => exact .refl host
    | some priority => exact .of_same rfl rfl rfl rfl rfl

theorem steady_releaseSemaphore (host : Host) (serial slots : Nat) (semaphore : Sync.Semaphore) :
    Steady host (host.releaseSemaphore serial slots semaphore).2 := by
  unfold releaseSemaphore
  split
  · exact .refl host
  · next released _ =>
    have given : Steady host
        { host with semaphores := host.semaphores.insert serial released } :=
      .of_same rfl rfl rfl rfl rfl
    exact given.trans (steady_wakeSome _ _ _)

theorem steady_leaveLock (host : Host) (thread : ThreadId) (serial : Nat)
    (lock : Sync.CriticalSection) : Steady host (host.leaveLock thread serial lock).2 := by
  unfold leaveLock
  split
  · exact .refl host
  · next left _ =>
    have put : Steady host { host with locks := host.locks.insert serial left } :=
      .of_same rfl rfl rfl rfl rfl
    simp only
    split
    · exact put.trans (steady_wakeOne _ _)
    · exact put

theorem steady_restCrew (host : Host) : Steady host host.restCrew := by
  refine ⟨.refl host.registry, rfl, fun thread => ?_, fun aloof => ⟨aloof, rfl⟩⟩
  unfold restCrew
  simp only
  split
  · refine (steady_mapValues host _ fun _ wait => ?_).purposes thread
    split
    · exact purpose_wake wait
    · rfl
  · rfl

theorem steady_own (host : Host) {owners : Owners}
    (same : owners.prepared = host.owners.prepared) : Steady host { host with owners } := by
  refine ⟨.refl host.registry, rfl, fun _ => rfl, fun aloof => ⟨?_, rfl⟩⟩
  unfold Owners.Aloof
  rwa [same]

/-! ### What a call can do -/

/-- The register as an operation of a call leaves it, and then nothing else that counts. -/
def Aside (host : Host) (call : Call) (after : Host) : Prop :=
  ∃ registry, Bearing call host.registry registry ∧ Steady { host with registry } after

theorem Aside.of_steady {host after : Host} {call : Call} (steady : Steady host after) :
    Aside host call after := ⟨host.registry, .aside (.refl _), steady⟩

theorem Aside.of_operation {host after : Host} {call : Call} (operation : Domain.Operation)
    (free : operation.forces = true → call.forces = true)
    (steady : Steady { host with registry := host.registry.perform operation } after) :
    Aside host call after :=
  ⟨_, .asked operation free (.refl _), steady⟩

theorem Aside.bearing {host after : Host} {call : Call} (aside : Aside host call after) :
    Bearing call host.registry after.registry := by
  obtain ⟨registry, bears, steady⟩ := aside
  cases bears with
  | aside same => exact .aside (same.trans steady.members)
  | asked operation free same => exact .asked operation free (same.trans steady.members)

theorem Aside.trans {host middle after : Host} {call : Call} (aside : Aside host call middle)
    (steady : Steady middle after) : Aside host call after := by
  obtain ⟨registry, bears, before⟩ := aside
  exact ⟨registry, bears, before.trans steady⟩

theorem aside_releaseThread (host : Host) (call : Call) (thread : ThreadId) :
    Aside host call (host.releaseThread thread).2 := by
  have performed : host.registry.perform (.releaseThread thread) =
    host.registry.orElse ((host.registry.releaseThread thread).map Prod.snd) := rfl
  unfold releaseThread
  split
  · exact .of_steady (.refl host)
  · next registry released =>
    refine .of_operation (.releaseThread thread) nofun ?_
    rw [performed, released]
    exact host.steady_adopt registry
  · next gone registry released =>
    refine .of_operation (.releaseThread thread) nofun ?_
    rw [performed, released]
    exact (host.steady_adopt registry).trans (.of_same rfl rfl rfl rfl rfl)

theorem aside_depart (host : Host) (call : Call) (thread : ThreadId) :
    Aside host call (host.depart thread) := by
  unfold depart
  split
  · exact .of_steady (.refl host)
  · exact (host.aside_releaseThread call thread).trans (.of_same rfl rfl rfl rfl rfl)
  · exact .of_steady ((host.steady_removeTask thread).trans (.of_same rfl rfl rfl rfl rfl))
  · refine .of_steady (Steady.trans ?_ (steady_wakeAll _ _))
    exact .of_same rfl rfl rfl rfl rfl

theorem aside_onRuntimeEvent (host : Host) (call : Call) (event : RuntimeEvent) :
    Aside host call (host.onRuntimeEvent event) := by
  cases event with
  | domainUnloaded domain =>
    let heard := { host with runtimeEvents := host.runtimeEvents + 1 }
    have counted : Steady { host with registry := host.registry.unload domain }
        { heard with registry := host.registry.unload domain } := .of_same rfl rfl rfl rfl rfl
    exact .of_operation (.unload domain) nofun (counted.trans (heard.steady_adopt _))
  | disabled => exact .of_steady (.of_same rfl rfl rfl rfl rfl)
  | assistantFired => exact .of_steady (.of_same rfl rfl rfl rfl rfl)
  | stackOverflow => exact .of_steady (.of_same rfl rfl rfl rfl rfl)

theorem aside_escalated (host : Host) (call : Call) (action : Policy.Action) :
    Aside host call (host.escalated action) := by
  unfold escalated
  split
  · exact .of_operation .rudeUnload nofun (.of_same rfl rfl rfl rfl rfl)
  · exact .of_steady (.of_same rfl rfl rfl rfl rfl)

/-- A call that neither numbers a thread, nor begins or ends a wait, nor touches the wait edges. -/
def Call.isAside : Call → Bool
  | .spawn | .createTask _ | .wait _ _ _ _ | .sleep _ _ _ | .monitorWait _ _ _ _ _
  | .shutdown _ _ | .turn _ | .prepare _ _ | .tryEnter _ _ _ | .endEnter _ => false
  | _ => true

theorem aside_heed (host : Host) {call : Call} (aside : call.isAside = true) :
    Aside host call (host.heed call) := by
  cases call with
  | spawn | createTask | wait | sleep | monitorWait | shutdown | turn | prepare | tryEnter
  | endEnter => cases aside
  | onDomains operation => exact .of_operation operation id (host.steady_adopt _)
  | post event =>
    exact ⟨_, .aside (.noticed host.registry _), host.steady_adopt (host.registry.post event)⟩
  | purge domain =>
    exact ⟨_, .aside (.noticed host.registry _), host.steady_adopt _⟩
  | escalate action => exact host.aside_escalated _ action
  | hear event => exact host.aside_onRuntimeEvent _ event
  | releaseThread thread => exact host.aside_releaseThread _ thread
  | depart thread => exact host.aside_depart _ thread
  | startTask serial => exact .of_steady (host.steady_startTask serial)
  | removeTask thread => exact .of_steady (host.steady_removeTask thread)
  | setLogical serial managed =>
    simp only [heed]
    split
    · exact .of_steady (.of_same rfl rfl rfl rfl rfl)
    · exact .of_steady (.refl host)
  | setPriority caller serial level =>
    exact .of_steady (host.steady_setPriority caller serial level)
  | alert thread => exact .of_steady (host.steady_alert thread)
  | elapse clock => exact .of_steady (host.steady_elapse clock)
  | setSignal serial => exact .of_steady (host.steady_setSignal serial)
  | releaseSemaphore serial slots =>
    simp only [heed]
    split
    · exact .of_steady (host.steady_releaseSemaphore serial slots _)
    · exact .of_steady (.refl host)
  | tryLock thread serial =>
    simp only [heed]
    split
    · exact .of_steady (.of_same rfl rfl rfl rfl rfl)
    · exact .of_steady (.refl host)
  | leaveLock thread serial =>
    simp only [heed]
    split
    · exact .of_steady (host.steady_leaveLock thread serial _)
    · exact .of_steady (.refl host)
  | setMonitor thread serial cookie =>
    exact .of_steady (host.steady_setMonitor thread serial cookie)
  | own | disown | nameMonitor | takeAsked => exact .of_steady (host.steady_own rfl)
  | detect asker thread cookie => exact .of_steady (host.steady_detect asker thread cookie)
  | restCrew => exact .of_steady host.steady_restCrew
  | currentTask | addManaged | beginDeparture | addSignal | clearSignal | addSemaphore | addLock
  | installOracle | elsewhere => exact .of_steady (.of_same rfl rfl rfl rfl rfl)

/-! ### Who is in which domain -/

theorem members_tryEnter (host : Host) (asker thread : ThreadId) (cookie : Cookie) :
    host.registry.SameMembers (host.tryEnter asker thread cookie).2.registry :=
  (steady_detect { host with detector := host.detector.register thread cookie }
    asker thread cookie).members

theorem members_sliceOver (host : Host) (thread : ThreadId) (wait : Wait) (cookie : Cookie)
    (backoff : Backoff) :
    host.registry.SameMembers (host.sliceOver thread wait cookie backoff).2.registry := by
  have looked := host.members_tryEnter thread thread cookie
  unfold sliceOver
  simp only
  split
  · exact looked
  · split <;> exact looked

theorem members_conclude (host : Host) (thread : ThreadId) (wait : Wait) (ending : Ending) :
    host.registry.SameMembers (host.conclude thread wait ending).2.registry := by
  have noted : ∀ (host : Host) (cookie : Cookie),
      (host.noteAcquired thread cookie ending).registry = host.registry := by
    intro host cookie
    unfold noteAcquired
    split <;> rfl
  unfold conclude
  split
  · exact .refl _
  · exact .refl _
  · next cookie _ => exact noted host cookie ▸ .refl _
  · next cookie backoff _ =>
    split
    · exact host.members_sliceOver thread wait cookie backoff
    · exact noted (host.endEnter thread) cookie ▸ .refl _
  · split <;> exact .refl _
  · exact .refl _

theorem members_turn (host : Host) (thread : ThreadId) :
    host.registry.SameMembers (host.turn thread).2.registry := by
  unfold turn
  split
  · exact .refl _
  · next wait _ =>
    split
    · exact .refl _
    · rcases attempt_cases { host with waits := host.waits.erase thread } thread wait with
        ⟨ending, after, looked, steady⟩ | looked
      · rw [looked]
        exact steady.members.trans (after.members_conclude thread wait ending)
      · rw [looked]
        exact .refl _

theorem startMonitorWait_registry (host : Host) (thread : ThreadId) (serial : Nat)
    (cookie : Cookie) (timeout : Option Nat) (options : Sync.WaitOptions) :
    (host.startMonitorWait thread serial cookie timeout options).registry = host.registry := by
  unfold startMonitorWait
  split <;> rfl

theorem members_whenIdle (host : Host) (thread : ThreadId) {begun : Host}
    (same : begun.registry = host.registry) :
    host.registry.SameMembers (host.whenIdle thread begun).registry := by
  unfold whenIdle
  split
  · exact same ▸ .refl _
  · exact .refl _

theorem bearing_createTask (host : Host) (call : Call) (parent : ThreadId) :
    Bearing call host.registry (host.createTask parent).2.registry := by
  have reserved : (host.createTask parent).2.registry =
      host.registry.perform (.reserveThread parent ⟨host.nextThread⟩) := by
    rcases made : host.registry.reserveThread parent ⟨host.nextThread⟩ with ⟨outcome, registry⟩
    cases outcome with
    | error error => simp [createTask, addThread, Domain.Registry.perform, made]
    | ok value => simp [createTask, addThread, startWait, Domain.Registry.perform, made]
  have free : (Domain.Operation.reserveThread parent ⟨host.nextThread⟩).forces = false := rfl
  exact .asked _ (fun forces => absurd (free.symm.trans forces) Bool.false_ne_true)
    (reserved ▸ .refl _)

theorem bearing_heed (host : Host) (call : Call) :
    Bearing call host.registry (host.heed call).registry := by
  cases given : call.isAside with
  | true => exact (host.aside_heed given).bearing
  | false =>
    cases call with
    | createTask parent => exact host.bearing_createTask _ parent
    | wait thread target timeout options => exact .aside (host.members_whenIdle thread rfl)
    | sleep thread span options => exact .aside (host.members_whenIdle thread rfl)
    | shutdown thread timeout => exact .aside (host.members_whenIdle thread rfl)
    | monitorWait thread serial cookie timeout options =>
      exact .aside (host.members_whenIdle thread
        (host.startMonitorWait_registry thread serial cookie timeout options))
    | turn thread => exact .aside (host.members_turn thread)
    | tryEnter asker thread cookie => exact .aside (host.members_tryEnter asker thread cookie)
    | spawn | prepare | endEnter => exact .aside (.refl _)
    | _ => cases given

end Steward.Host
