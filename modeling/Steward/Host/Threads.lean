import Steward.Host.Watch

/-! The threads of a host and their tasks. A thread that the host creates is bound to its parent's
domain at once and waits at its gate. When it ends, it is unbound, leaves the table of tasks, and
then counts as exited. -/

set_option autoImplicit false

namespace Steward.Host

/-- Give a number to a thread that the host did not create. -/
def spawn (host : Host) : ThreadId × Host := host.addThread {}

/-- Create a suspended thread with a task, if the parent's domain allows one more. The system always
gives a thread here. Were it to refuse, the task would be taken out of the table again, the thread
would be released from its domain, and the call would fail. -/
def createTask (host : Host) (parent : ThreadId) : Except Error Nat × Host :=
  let (child, numbered) := host.addThread .suspended
  match numbered.registry.reserveThread parent child with
  | (.error error, registry) => (.error error, numbered.adopt registry)
  | (.ok _, registry) =>
      let (serial, tasks) := numbered.tasks.add child
      (.ok serial,
        { numbered.adopt registry with tasks }.startWait child (.gate child) none {} .start)

def task (host : Host) (serial : Nat) : Tasks.Task := host.tasks.tasks.getD serial ⟨⟨0⟩, true, none⟩

def taskState (host : Host) (serial : Nat) : Tasks.State :=
  let task := host.task serial
  task.state (host.control task.thread)

/-- Move the gate of a suspended thread and wake it. -/
def moveGate (host : Host) (thread : ThreadId) (gate : Tasks.Gate) : Bool × Host :=
  match (host.control thread).move? gate with
  | none => (false, host)
  | some control =>
      (true, { host with controls := host.controls.insert thread control }.wakeAll (.gate thread))

/-- Start a task. A running one stays as it is. -/
def startTask (host : Host) (serial : Nat) : Except Error Unit × Host :=
  let thread := (host.task serial).thread
  match host.moveGate thread .running with
  | (true, started) => (.ok (), started)
  | (false, host) =>
      (if host.taskState serial = .running then .ok () else .error (.taskNotFound thread), host)

/-- Remove the task of a thread. A thread that was not started will not run. -/
def removeTask (host : Host) (thread : ThreadId) : Bool × Host :=
  let (removed, tasks) := host.tasks.remove thread
  let left := { host with tasks }
  (removed, if removed then (left.moveGate thread .cancelled).2 else left)

/-- The task of a running thread, made now if it has none. -/
def currentTask (host : Host) (thread : ThreadId) : Nat × Host :=
  let (serial, tasks) := host.tasks.find thread
  (serial, { host with tasks })

/-- Begin to wait for the end of a task's thread, which must be another one. -/
def startJoin (host : Host) (thread : ThreadId) (serial : Nat) (timeout : Option Nat)
    (options : Sync.WaitOptions) : Except Error Host :=
  let other := (host.task serial).thread
  if other = thread then .error (.selfJoin other)
  else .ok (host.startWait thread (.exit other) timeout options .plain)

/-- What a request for a level of priority comes to. An unknown level is refused. A raise by a
caller outside the default domain is ignored, as long as the manager of the tasks is there to tell;
anything else is to be stored. -/
def weighPriority (host : Host) (managed : Bool) (caller : ThreadId) (serial : Nat) (level : Int) :
    Except Error (Option Tasks.Priority) :=
  match Tasks.Priority.ofValue? level with
  | none => .error (.invalidArgument (.unknownPriority level))
  | some priority =>
      if (host.control (host.task serial).thread).priority.value < level ∧
          (managed && host.registry.isSnippet caller) then .ok none
      else .ok (some priority)

/-- Store what came of a request in a task's thread. All tasks of a thread share its priority. -/
def storePriority (host : Host) (serial : Nat) : Option Tasks.Priority → Host
  | none => host
  | some priority => { host with
      controls := host.controls.modify (host.task serial).thread fun control =>
        { control with priority } }

/-- Change the priority of a task's thread: look, and store at once. A host has the manager of its
tasks. -/
def setPriority (host : Host) (caller : ThreadId) (serial : Nat) (level : Int) :
    Except Error Unit × Host :=
  match host.weighPriority true caller serial level with
  | .error error => (.error error, host)
  | .ok verdict => (.ok (), host.storePriority serial verdict)

/-- Release a thread's binding, and tell the manager of a domain that ended with it. -/
def releaseThread (host : Host) (thread : ThreadId) : Except Error Unit × Host :=
  match host.registry.releaseThread thread with
  | .error error => (.error error, host)
  | .ok (none, registry) => (.ok (), host.adopt registry)
  | .ok (some gone, registry) => (.ok (),
      (host.adopt registry).tell (.mainThreadExit gone.domain gone.isEmpty registry.domains.size))

/-- The routine of a created thread is over, whether it returned or panicked. -/
def beginDeparture (host : Host) (thread : ThreadId) : Host :=
  { host with leaving := host.leaving.insert thread .unbinding }

/-- One step of a thread that ends. -/
def depart (host : Host) (thread : ThreadId) : Host :=
  match host.leaving.get? thread with
  | none => host
  | some .unbinding =>
      let unbound := (host.releaseThread thread).2
      { unbound with leaving := unbound.leaving.insert thread .unlisting }
  | some .unlisting =>
      let unlisted := (host.removeTask thread).2
      { unlisted with leaving := unlisted.leaving.insert thread .marking }
  | some .marking =>
      { host with
        controls := host.controls.modify thread fun control => { control with exited := true }
        leaving := host.leaving.erase thread }.wakeAll (.exit thread)

end Steward.Host
