import Steward.Flags

/-! The managers that a host can offer to its runtime. -/

set_option autoImplicit false

namespace Steward.Host

inductive ManagerKind where
  | task
  | sync
  | memory
  | collection
  | completion
  | workerPool
  | assembly
  | policy
  | events
  deriving DecidableEq

namespace ManagerKind

def all : List ManagerKind :=
  [task, sync, memory, collection, completion, workerPool, assembly, policy, events]

def label : ManagerKind → String
  | task => "Task"
  | sync => "Sync"
  | memory => "Memory"
  | collection => "Gc"
  | completion => "IoCompletion"
  | workerPool => "Threadpool"
  | assembly => "Assembly"
  | policy => "Policy"
  | events => "Events"

def flagLabel : ManagerKind → String
  | task => "TASK"
  | sync => "SYNC"
  | memory => "MEMORY"
  | collection => "GC"
  | completion => "IO_COMPLETION"
  | workerPool => "THREADPOOL"
  | assembly => "ASSEMBLY"
  | policy => "POLICY"
  | events => "EVENTS"

def position : ManagerKind → Nat
  | task => 0
  | sync => 1
  | memory => 2
  | collection => 3
  | completion => 4
  | workerPool => 5
  | assembly => 6
  | policy => 7
  | events => 8

def bit (kind : ManagerKind) : Nat := 1 <<< kind.position

def debug (kind : ManagerKind) : String := Text.wrapped "HostManager" kind.label

end ManagerKind

/-- Which managers a host offers. -/
structure ManagerSet where
  offers : ManagerKind → Bool

def ManagerSet.full : ManagerSet := ⟨fun _ => true⟩

instance : FlagSet ManagerSet where
  title := "ManagerSet"
  members := ManagerKind.all.map fun kind =>
    ⟨kind.position, kind.flagLabel, fun set => set.offers kind⟩
  ofBits bits := ⟨fun kind => bits.testBit kind.position⟩

end Steward.Host
