import Steward.Deadlock.Walk

/-! The wait edges of a host: which thread waits for which lock. -/

set_option autoImplicit false

namespace Steward.Deadlock

structure Detector where
  waits : Waits := {}
  /-- There is somebody to ask for the owners of locks. -/
  hasOracle : Bool := false
  detections : Nat := 0

/-- Note that a thread waits for a lock; one that waits already keeps its edge. -/
def register (waits : Waits) (thread : ThreadId) (cookie : Cookie) : Waits :=
  if waits.contains thread then waits else waits.insert thread cookie

namespace Detector

def register (detector : Detector) (thread : ThreadId) (cookie : Cookie) : Detector :=
  { detector with waits := Deadlock.register detector.waits thread cookie }

def endEnter (detector : Detector) (thread : ThreadId) : Detector :=
  { detector with waits := detector.waits.erase thread }

def debug (detector : Detector) : String :=
  Text.openRecord "DeadlockDetector"
    [("pending_waits", toString detector.waits.size), ("has_oracle", toString detector.hasOracle),
      ("detections", toString detector.detections)]

end Detector

end Steward.Deadlock
