import Steward.Domain.Registry
import Steward.Policy.Escalation
import Steward.Assembly.Store
import Steward.Host.Manager

/-! What a host is built from: caps, the deadlock backoff, completion channels, worker pool, lock
trace, escalation table, offered managers and served assemblies. Times are in nanoseconds. -/

set_option autoImplicit false

namespace Steward.Host

/-- The first slice of a watched wait, and the longest one of a wait without end. -/
structure DeadlockConfig where
  initialSlice : Nat := 100000000
  maxSlice : Nat := 10000000000
  deriving DecidableEq

structure CompletionConfig where
  maxChannels : Nat := 16
  minThreads : Nat := 0
  maxThreads : Nat := 4
  pollInterval : Nat := 1000000000
  deriving DecidableEq

structure TraceConfig where
  enabled : Bool := false
  path : Option String := none
  /-- How many events are kept in memory; zero means all. -/
  maxEvents : Nat := 0
  deriving DecidableEq

def TraceConfig.memory : TraceConfig := ⟨true, none, 100000⟩

def TraceConfig.file (path : String) : TraceConfig := ⟨true, some path, 0⟩

structure Config where
  limits : Domain.Limits := {}
  deadlock : DeadlockConfig := {}
  completion : CompletionConfig := {}
  poolThreads : Nat := 512
  trace : TraceConfig := {}
  policy : Policy.Escalation := .standard
  managers : ManagerSet := .full
  assemblies : List Assembly.Entry := []

/-- Tight caps, and the lock trace in memory. -/
def Config.sandboxed : Config := { limits := ⟨16, 64 * 1024 * 1024⟩, trace := .memory }

def Config.unrestricted : Config := { limits := .unlimited }

end Steward.Host
