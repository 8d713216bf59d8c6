import Steward.Flags

/-! What an allocation asks for: whether pages are reserved or committed, how a heap is used,
how pages are given back, and how urgent the request is. -/

set_option autoImplicit false

namespace Steward.Memory

structure AllocationKind where
  commit : Bool := false
  reserve : Bool := false
  deriving DecidableEq, Inhabited

instance : FlagSet AllocationKind where
  title := "AllocationType"
  members := [⟨12, "COMMIT", AllocationKind.commit⟩, ⟨13, "RESERVE", AllocationKind.reserve⟩]
  ofBits bits := ⟨bits.testBit 12, bits.testBit 13⟩

structure HeapFlags where
  executable : Bool := false
  threadSafe : Bool := false
  deriving DecidableEq, Inhabited

instance : FlagSet HeapFlags where
  title := "MallocFlags"
  members := [⟨0, "EXECUTABLE", HeapFlags.executable⟩, ⟨1, "THREAD_SAFE", HeapFlags.threadSafe⟩]
  ofBits bits := ⟨bits.testBit 0, bits.testBit 1⟩

inductive FreeKind where
  | decommit
  | release
  deriving DecidableEq

/-- What fails when the memory is not provided. -/
inductive CriticalLevel where
  | task
  | domain
  | process
  deriving DecidableEq

namespace CriticalLevel

def all : List CriticalLevel := [task, domain, process]

def label : CriticalLevel → String
  | task => "TaskCritical"
  | domain => "AppDomainCritical"
  | process => "ProcessCritical"

/-- A request that would take down more than its task is granted past the budget. -/
def bypassesBudget : CriticalLevel → Bool
  | task => false
  | domain | process => true

end CriticalLevel

end Steward.Memory
