import Steward.Host.Threads
import Steward.Session.State

/-! The commands on threads and tasks. -/

set_option autoImplicit false

namespace Steward.Session

def spawn (session : Session) (name : String) : Progress × Session :=
  let (id, host) := session.host.spawn
  ({ session with host }.nameThread name ⟨id, false⟩).answer (.thread id)

def createTask (session : Session) (thread : ThreadId) (name : String) : Progress × Session :=
  match session.host.createTask thread with
  | (.error error, host) => { session with host }.refuse error
  | (.ok serial, host) =>
      let id := (host.task serial).thread
      ({ session with host, tasks := session.tasks.insert name serial }.nameThread name
        ⟨id, true⟩).answer (.thread id)

def taskState (session : Session) (serial : Nat) : Value :=
  let task := session.host.task serial
  let control := session.host.control task.thread
  .list [.thread task.thread, .text (task.state control).label, .flag control.exited,
    .number control.priority.value, .optional .natural task.logical]

/-- The running thread's task, named if a name is given, and if a second look gives the same. -/
def currentTask (session : Session) (thread : ThreadId) (name : Option String) :
    Progress × Session :=
  let (serial, host) := session.host.currentTask thread
  let again := (host.currentTask thread).1
  let tasks := match name with
    | some name => session.tasks.insert name serial
    | none => session.tasks
  { session with host, tasks }.answer
    (.list [.thread (host.task serial).thread, .flag (serial = again)])

/-- The commands on a task that goes by a serial number. -/
def performOn (session : Session) (thread : ThreadId) (serial : Nat) :
    TaskCommand → Progress × Session
  | .start _ => session.attempted (session.host.startTask serial) fun _ => .nothing
  | .alert _ => session.changed (session.host.alert (session.host.task serial).thread)
  | .join _ timeout options =>
      match session.host.startJoin thread serial timeout options with
      | .error error => session.refuse error
      | .ok host => session.waiting host .outcome
  | .setPriority _ level =>
      match session.host.setPriority thread serial level with
      | (.error error, host) => { session with host }.refuse error
      | (.ok _, host) => { session with host }.answer
          (.number (host.control (host.task serial).thread).priority.value)
  | .setLogical _ managed =>
      match session.host.tasks.setLogical serial managed with
      | .error error => session.refuse error
      | .ok tasks => session.changed { session.host with tasks }
  | .addManaged _ managed =>
      let thread := (session.host.task serial).thread
      session.changed { session.host with tasks := session.host.tasks.addManaged thread managed }
  | _ => session.answer (session.taskState serial)

/-- Remove the task of a thread, and wait for the end of one that was never started. -/
def removeTask (session : Session) (thread other : ThreadId) : Progress × Session :=
  let (removed, host) := session.host.removeTask other
  if removed && decide ((session.host.control other).gate = .suspended) then
    session.waiting (host.startWait thread (.exit other) none {} .plain) .removed
  else { session with host }.answer (.flag removed)

def performTask (session : Session) (thread : ThreadId) (command : TaskCommand) :
    Progress × Session :=
  match command with
  | .create name => session.createTask thread name
  | .start name | .alert name | .join name _ _ | .state name | .setPriority name _
  | .setLogical name _ | .addManaged name _ =>
      session.withNamed session.tasks name fun serial => session.performOn thread serial command
  | .current name => session.currentTask thread name
  | .currentId => session.answer (.thread thread)
  | .lookup other =>
      session.answer (.optional (fun serial => .text (session.host.taskState serial).label)
        (session.host.tasks.live.get? other))
  | .remove other => session.removeTask thread other
  | .count => session.answer (.natural session.host.tasks.size)
  | .logical other => session.answer (.optional .natural (session.host.tasks.managed.get? other))
  | .sleep span options =>
      session.waiting (session.host.startWait thread (.sleep thread) (some span) options .sleep)
        .outcome
  | .yield => session.answer .nothing

end Steward.Session
