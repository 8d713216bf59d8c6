import Steward.Error

/-! Counting semaphores with a fixed maximum. -/

set_option autoImplicit false

namespace Steward.Sync

structure Semaphore where
  count : Nat
  maximum : Nat
  within : count ≤ maximum
  deriving DecidableEq

namespace Semaphore

/-- A semaphore has at least one slot, and starts with no more free slots than it has. -/
def create (initial maximum : Nat) : Except Error Semaphore :=
  if within : maximum ≠ 0 ∧ initial ≤ maximum then .ok ⟨initial, maximum, within.2⟩
  else .error (.invalidArgument (.semaphoreBounds initial maximum))

/-- Take a free slot. -/
def take? (semaphore : Semaphore) : Option Semaphore :=
  if semaphore.count = 0 then none
  else some ⟨semaphore.count - 1, semaphore.maximum,
    Nat.le_trans (Nat.sub_le _ _) semaphore.within⟩

/-- Give slots back, all of them or none. -/
def release (semaphore : Semaphore) (slots : Nat) : Except SyncFault Semaphore :=
  if within : semaphore.count + slots ≤ semaphore.maximum then
    .ok ⟨semaphore.count + slots, semaphore.maximum, within⟩
  else .error .semaphoreOverflow

def debug (semaphore : Semaphore) : String :=
  Text.record "Semaphore"
    [("count", toString semaphore.count), ("max_count", toString semaphore.maximum)]

end Semaphore

end Steward.Sync
