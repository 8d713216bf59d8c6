import Steward.Text.Record

/-! What the runtime's garbage collector reported about the suspension of threads. -/

set_option autoImplicit false

namespace Steward.Memory

structure Collection where
  /-- Threads that were about to block until a suspension is over. -/
  blocking : Nat := 0
  suspensions : Nat := 0
  suspended : Bool := false
  /-- The generation collected by the last suspension that ended. -/
  lastGeneration : Nat := 0
  deriving DecidableEq

namespace Collection

def block (collection : Collection) : Collection :=
  { collection with blocking := collection.blocking + 1 }

def start (collection : Collection) : Collection :=
  { collection with suspensions := collection.suspensions + 1, suspended := true }

def finish (collection : Collection) (generation : Nat) : Collection :=
  { collection with suspended := false, lastGeneration := generation }

def debug (collection : Collection) : String :=
  Text.record "GcManager"
    [("blocking", toString collection.blocking), ("suspensions", toString collection.suspensions),
      ("suspended", toString collection.suspended),
      ("last_generation", toString collection.lastGeneration)]

end Collection

end Steward.Memory
