import Steward.Host.State

/-! How threads wait and wake each other. A wait looks for its target; while that is not there, it
sleeps until it is woken by whoever makes it available, by an alert, or by its deadline, and then
looks again. -/

set_option autoImplicit false

namespace Steward.Host

def isAlerted (host : Host) (thread : ThreadId) : Bool := (host.control thread).alerted

def clearAlert (host : Host) (thread : ThreadId) : Host :=
  { host with
    controls := host.controls.modify thread fun control => { control with alerted := false } }

def isSleeper (target : Target) (entry : ThreadId × Wait) : Bool :=
  entry.2.target = target && entry.2.stage = .asleep

/-- Wake the thread that sleeps longest on a target. -/
def wakeOne (host : Host) (target : Target) : Host :=
  match host.waits.entries.find? (isSleeper target) with
  | some (thread, _) => { host with waits := host.waits.modify thread Wait.wake }
  | none => host

/-- Wake a number of threads, if so many sleep on a target. -/
def wakeSome (target : Target) : Nat → Host → Host
  | 0, host => host
  | count + 1, host => wakeSome target count (host.wakeOne target)

/-- Wake every thread that sleeps on a target. -/
def wakeAll (host : Host) (target : Target) : Host :=
  { host with
    waits := host.waits.mapValues fun _ wait => if wait.target = target then wait.wake else wait }

/-- Put the outcome of a registry operation in place. Each notice it queued wakes a reader. -/
def adopt (host : Host) (registry : Domain.Registry) : Host :=
  wakeSome .notice (registry.events.accepted - host.registry.events.accepted) { host with registry }

/-- Take what a thread waits for, if it is there. -/
def take? (host : Host) (thread : ThreadId) : Target → Option (Ending × Host)
  | .signal serial => do
      let signal ← host.signals.get? serial
      let left ← signal.take?
      return (⟨.signaled, none⟩, { host with signals := host.signals.insert serial left })
  | .semaphore serial => do
      let semaphore ← host.semaphores.get? serial
      let left ← semaphore.take?
      return (⟨.signaled, none⟩, { host with semaphores := host.semaphores.insert serial left })
  | .lock serial => do
      let lock ← host.locks.get? serial
      let entered ← lock.enter? thread
      return (⟨.signaled, none⟩, { host with locks := host.locks.insert serial entered })
  | .gate other =>
      match (host.control other).gate with
      | .suspended => none
      | .running => some (⟨.signaled, none⟩, host)
      | .cancelled => some (⟨.abandoned, none⟩, host)
  | .exit other => if (host.control other).exited then some (⟨.signaled, none⟩, host) else none
  | .notice => do
      let (event, left) ← host.registry.events.poll?
      return (⟨.signaled, some event⟩,
        { host with registry := { host.registry with events := left } })
  | .workers serials =>
      if serials.all fun serial => !host.crew.workers.contains serial then
        some (⟨.signaled, none⟩, host)
      else none
  | .sleep _ => none

/-- Begin a wait. -/
def startWait (host : Host) (thread : ThreadId) (target : Target) (timeout : Option Nat)
    (options : Sync.WaitOptions) (purpose : Purpose) : Host :=
  let deadline := timeout.map fun span => host.clock + span
  { host with
    waits := (host.waits.erase thread).insert thread
      ⟨target, deadline, options, purpose, .starting⟩ }

/-- Look for the target; then for an alert; then at the clock. -/
def look (host : Host) (thread : ThreadId) (wait : Wait) : Option Ending × Host :=
  match host.take? thread wait.target with
  | some (ending, host) => (some ending, host)
  | none =>
      if wait.options.alertable && host.isAlerted thread then
        (some ⟨.interrupted, none⟩, host.clearAlert thread)
      else if wait.isDue host.clock then (some ⟨.timedOut, none⟩, host)
      else (none, { host with waits := host.waits.insert thread { wait with stage := .asleep } })

/-- A thread that gives up on a pending signal leaves it to another. -/
def passOn (host : Host) (target : Target) : Host :=
  match target with
  | .signal serial =>
      if (host.signals.get? serial).any fun signal => signal.isSet && !signal.lasting then
        host.wakeOne target
      else host
  | _ => host

/-- A wait that begins under an alert is interrupted before it looks. -/
def attempt (host : Host) (thread : ThreadId) (wait : Wait) : Option Ending × Host :=
  if wait.stage = .starting && wait.options.alertable && host.isAlerted thread then
    (some ⟨.interrupted, none⟩, (host.clearAlert thread).passOn wait.target)
  else host.look thread wait

/-- Alert a thread, and wake whoever sleeps where it sleeps in an alertable wait. -/
def alert (host : Host) (thread : ThreadId) : Host :=
  let alerted := { host with
    controls := host.controls.modify thread fun control => { control with alerted := true } }
  match host.waits.get? thread with
  | some wait => if wait.options.alertable then alerted.wakeAll wait.target else alerted
  | none => alerted

def setSignal (host : Host) (serial : Nat) : Host :=
  match host.signals.get? serial with
  | none => host
  | some signal =>
      let set := { host with signals := host.signals.insert serial signal.set }
      if signal.lasting then set.wakeAll (.signal serial) else set.wakeOne (.signal serial)

def clearSignal (host : Host) (serial : Nat) : Host :=
  { host with signals := host.signals.modify serial Sync.Signal.clear }

/-- Give slots of a semaphore back, and tell how many were free before. -/
def releaseSemaphore (host : Host) (serial slots : Nat) (semaphore : Sync.Semaphore) :
    Except Error Nat × Host :=
  match semaphore.release slots with
  | .error fault => (.error (.sync fault), host)
  | .ok released => (.ok semaphore.count,
      wakeSome (.semaphore serial) slots
        { host with semaphores := host.semaphores.insert serial released })

/-- Leave a critical section. Who leaves for the last time wakes a waiter. -/
def leaveLock (host : Host) (thread : ThreadId) (serial : Nat) (lock : Sync.CriticalSection) :
    Except Error Unit × Host :=
  match lock.leave thread with
  | .error fault => (.error (.sync fault), host)
  | .ok left =>
      let host := { host with locks := host.locks.insert serial left }
      (.ok (), if left.hold = none then host.wakeOne (.lock serial) else host)

/-- Threads that are not asleep have a step to make. -/
def isStirring (host : Host) : Bool :=
  host.waits.values.any fun wait => decide (wait.stage ≠ .asleep)

/-- The next time at which a wait is due. -/
def nextDeadline? (host : Host) : Option Nat := (host.waits.values.filterMap Wait.deadline).min?

/-- Let time pass, and wake the threads whose waits are due. -/
def elapse (host : Host) (clock : Nat) : Host :=
  { host with
    clock := max host.clock clock
    waits := host.waits.mapValues fun _ wait =>
      if wait.isDue (max host.clock clock) then wait.wake else wait }

end Steward.Host
