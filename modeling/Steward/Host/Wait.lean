import Steward.Deadlock.Backoff
import Steward.Domain.Event
import Steward.Sync.Options
import Steward.Sync.Outcome

/-! A wait in progress: what a thread waits for, until when, and what the wait is part of. -/

set_option autoImplicit false

namespace Steward.Host

/-- What a thread can wait for. Signals, semaphores and locks go by serial number. -/
inductive Target where
  | signal (serial : Nat)
  | semaphore (serial : Nat)
  | lock (serial : Nat)
  | gate (thread : ThreadId)
  | exit (thread : ThreadId)
  /-- A notice to the embedder. -/
  | notice
  /-- The end of these completion workers. -/
  | workers (serials : List Nat)
  /-- Nothing: a sleep, of which each thread has its own. -/
  | sleep (thread : ThreadId)
  deriving DecidableEq

/-- What a wait is part of, which decides what follows it. -/
inductive Purpose where
  | plain
  /-- A sleep is over when its time has passed. -/
  | sleep
  /-- A wait for a monitor without a look for deadlocks. -/
  | monitor (cookie : Cookie)
  /-- One slice of a wait for a monitor. -/
  | watched (cookie : Cookie) (backoff : Deadlock.Backoff)
  /-- The start of a new thread. -/
  | start
  /-- The end of the host's workers. -/
  | shutdown
  deriving DecidableEq

inductive Stage where
  /-- The wait begins, and has not looked yet. -/
  | starting
  | asleep
  /-- The thread was woken, and is about to look again. -/
  | awake
  deriving DecidableEq

structure Wait where
  target : Target
  deadline : Option Nat
  options : Sync.WaitOptions
  purpose : Purpose
  stage : Stage := .starting
  deriving DecidableEq

namespace Wait

def wake (wait : Wait) : Wait :=
  if wait.stage = .asleep then { wait with stage := .awake } else wait

/-- The time of the wait has passed. -/
def isDue (wait : Wait) (clock : Nat) : Bool := wait.deadline.any fun deadline => deadline ≤ clock

end Wait

/-- How an operation that waited ended, and the notice that it brought. -/
structure Ending where
  outcome : Sync.Outcome
  notice : Option Domain.Event := none
  deriving DecidableEq

end Steward.Host
