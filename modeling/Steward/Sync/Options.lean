import Steward.Flags

/-! How a thread wishes to wait. -/

set_option autoImplicit false

namespace Steward.Sync

structure WaitOptions where
  /-- An alert to the thread ends the wait. -/
  alertable : Bool := false
  /-- Messages should be served meanwhile; as the host has none, this changes nothing. -/
  pumping : Bool := false
  /-- The wait takes no part in the detection of deadlocks. -/
  unwatched : Bool := false
  deriving DecidableEq, Inhabited

instance : FlagSet WaitOptions where
  title := "WaitOptions"
  members := [⟨0, "ALERTABLE", WaitOptions.alertable⟩, ⟨1, "MSGPUMP", WaitOptions.pumping⟩,
    ⟨2, "NOT_IN_DEADLOCK", WaitOptions.unwatched⟩]
  ofBits bits := ⟨bits.testBit 0, bits.testBit 1, bits.testBit 2⟩

end Steward.Sync
