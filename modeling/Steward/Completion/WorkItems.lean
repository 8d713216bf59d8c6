import Steward.Error

/-! A pool that runs work items. An item that panics counts as queued and never as completed. -/

set_option autoImplicit false

namespace Steward.Completion

structure WorkItems where
  maxThreads : Nat
  queued : Nat := 0
  completed : Nat := 0
  deriving DecidableEq

namespace WorkItems

/-- Queue items and run them all. -/
def queue (items : WorkItems) (count : Nat) (panics : Bool) : WorkItems :=
  { items with
    queued := items.queued + count
    completed := if panics then items.completed else items.completed + count }

def setMaxThreads (items : WorkItems) (maxThreads : Nat) : Except Error WorkItems :=
  if maxThreads = 0 then .error (.invalidArgument .emptyWorkerPool)
  else .ok { items with maxThreads }

/-- The pool keeps no least number of threads. -/
def minThreads (_ : WorkItems) : Except Error Nat := .error (.notSupported .workerPoolMinimum)

def setMinThreads (_ : WorkItems) (_ : Nat) : Except Error WorkItems :=
  .error (.notSupported .workerPoolMinimum)

/-- The pool does not count idle threads. -/
def available (_ : WorkItems) : Except Error Nat :=
  .error (.notSupported .workerPoolAvailability)

def debug (items : WorkItems) : String :=
  Text.record "WorkerPoolManager"
    [("max_threads", toString items.maxThreads), ("queued", toString items.queued),
      ("completed", toString items.completed)]

end WorkItems

end Steward.Completion
