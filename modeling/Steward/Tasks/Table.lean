import Steward.Assoc
import Steward.Tasks.Control

/-! Tasks and the table of the live ones. A task stands for a thread. It leaves the table for good,
and from then on it is known only to those who kept it; a thread that is seen again gets a new
task. -/

set_option autoImplicit false

namespace Steward.Tasks

inductive State where
  | created
  | running
  | removed
  deriving DecidableEq

def State.label : State → String
  | created => "Created"
  | running => "Running"
  | removed => "Removed"

structure Task where
  thread : ThreadId
  removed : Bool := false
  /-- The runtime's own number for the thread. -/
  logical : Option Nat := none
  deriving DecidableEq

/-- The tasks ever made, by serial number, the serial of each thread's live task, and the
runtime's number for each thread that has one. -/
structure Table where
  tasks : Assoc Nat Task := {}
  made : Nat := 0
  live : Assoc ThreadId Nat := {}
  managed : Assoc ThreadId Nat := {}

namespace Table

/-- Make the live task of a thread. -/
def add (table : Table) (thread : ThreadId) : Nat × Table :=
  (table.made, { table with
    tasks := table.tasks.insert table.made { thread }
    made := table.made + 1
    live := table.live.insert thread table.made })

/-- The live task of a thread, made now if it has none. -/
def find (table : Table) (thread : ThreadId) : Nat × Table :=
  match table.live.get? thread with
  | some serial => (serial, table)
  | none => table.add thread

/-- Take a thread's task out of the table, with the runtime's numbers for it. -/
def remove (table : Table) (thread : ThreadId) : Bool × Table :=
  let left := { table with
    live := table.live.erase thread
    managed := table.managed.erase thread }
  match table.live.get? thread with
  | some serial =>
      (true, { left with tasks := left.tasks.modify serial fun task =>
        { task with removed := true, logical := none } })
  | none => (false, left)

/-- Note the runtime's number for a thread. -/
def addManaged (table : Table) (thread : ThreadId) (managed : Nat) : Table :=
  { table with managed := table.managed.insert thread managed }

/-- Store the runtime's number in a task. -/
def storeLogical (table : Table) (serial managed : Nat) : Table :=
  match table.tasks.get? serial with
  | none => table
  | some task =>
      { table with tasks := table.tasks.insert serial { task with logical := some managed } }

/-- Give a task the runtime's number for it, unless it was removed. This is one step here. The
program looks, stores the number and notes it under three locks, between which the task can be
removed. -/
def setLogical (table : Table) (serial managed : Nat) : Except Error Table :=
  match table.tasks.get? serial with
  | none => .ok table
  | some task =>
      if task.removed then .error (.taskNotFound task.thread)
      else .ok ((table.storeLogical serial managed).addManaged task.thread managed)

def size (table : Table) : Nat := table.live.size

def debug (table : Table) : String :=
  Text.record "TaskManager"
    [("tasks", toString table.live.size), ("managed", toString table.managed.size)]

end Table

/-- The state of a task, given the control of its thread. -/
def Task.state (task : Task) (control : Control) : State :=
  if task.removed then .removed else if control.isStarted then .running else .created

def Task.debug (task : Task) (control : Control) : String :=
  Text.record "Task"
    [("id", task.thread.debug), ("state", (task.state control).label),
      ("priority", toString control.priority.value),
      ("logical", Text.optional (task.logical.map toString))]

end Steward.Tasks
