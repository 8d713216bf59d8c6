import Steward.Ident

/-! Notices from the host to its embedder. A notice is queued once for each kind and domain until
it is taken off the queue. -/

set_option autoImplicit false

namespace Steward.Domain

inductive EventKind where
  | outOfTasks
  | outOfMemory
  | domainUnloaded
  | unloadRequested
  deriving DecidableEq

namespace EventKind

def all : List EventKind := [outOfTasks, outOfMemory, domainUnloaded, unloadRequested]

def label : EventKind → String
  | outOfTasks => "OutOfTasks"
  | outOfMemory => "OutOfMemory"
  | domainUnloaded => "DomainUnloaded"
  | unloadRequested => "UnloadRequested"

end EventKind

structure Event where
  kind : EventKind
  domain : DomainId
  thread : Option ThreadId
  deriving DecidableEq

/-- Two notices that say the same, whichever thread caused them. -/
def Event.same (first second : Event) : Bool :=
  first.kind = second.kind && first.domain = second.domain

/-- The notices not yet taken, oldest first, and how many were ever accepted. -/
structure EventQueue where
  pending : List Event := []
  accepted : Nat := 0
  deriving DecidableEq

namespace EventQueue

/-- Queue a notice, unless the same one is still waiting. -/
def post (queue : EventQueue) (event : Event) : Bool × EventQueue :=
  if queue.pending.any event.same then (false, queue)
  else (true, ⟨queue.pending ++ [event], queue.accepted + 1⟩)

/-- Queue a notice and leave it at that. -/
def add (queue : EventQueue) (event : Event) : EventQueue := (queue.post event).2

/-- Take the oldest notice. -/
def poll? (queue : EventQueue) : Option (Event × EventQueue) :=
  match queue.pending with
  | [] => none
  | event :: rest => some (event, { queue with pending := rest })

/-- Drop the notices of one domain and count them. -/
def purge (queue : EventQueue) (domain : DomainId) : Nat × EventQueue :=
  let kept := queue.pending.filter fun event => event.domain ≠ domain
  (queue.pending.length - kept.length, { queue with pending := kept })

def size (queue : EventQueue) : Nat := queue.pending.length

end EventQueue

end Steward.Domain
