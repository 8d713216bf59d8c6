import Steward.Error
import Steward.Tasks.Priority

/-! What the host keeps for each thread: the gate at which a new thread waits to be started, the
alert that ends its alertable waits, its priority, and whether it has ended. -/

set_option autoImplicit false

namespace Steward.Tasks

inductive Gate where
  | suspended
  | running
  | cancelled
  deriving DecidableEq

structure Control where
  gate : Gate := .running
  exited : Bool := false
  alerted : Bool := false
  priority : Priority := .normal
  deriving DecidableEq

namespace Control

/-- A thread that waits to be started. -/
def suspended : Control := { gate := .suspended }

def isStarted (control : Control) : Bool := control.gate = .running

/-- Move a suspended thread's gate; any other gate stays as it is. -/
def move? (control : Control) (gate : Gate) : Option Control :=
  if control.gate = .suspended then some { control with gate } else none

def debug (control : Control) (thread : ThreadId) : String :=
  Text.record "ThreadControl"
    [("id", thread.debug), ("started", toString control.isStarted),
      ("exited", toString control.exited), ("priority", toString control.priority.value)]

end Control

end Steward.Tasks
