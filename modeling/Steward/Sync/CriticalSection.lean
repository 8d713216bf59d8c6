import Steward.Error

/-! A lock that its owner may enter again. It is free once every entry has been left. -/

set_option autoImplicit false

namespace Steward.Sync

/-- The owner of a critical section and how often it entered, beyond the first time. -/
structure Hold where
  owner : ThreadId
  again : Nat
  deriving DecidableEq

structure CriticalSection where
  hold : Option Hold := none
  /-- How often an entry looks again before it sleeps. -/
  spins : Nat := 0
  deriving DecidableEq

namespace CriticalSection

def owner? (lock : CriticalSection) : Option ThreadId := lock.hold.map Hold.owner

/-- How many entries of the owner are still to be left. -/
def depth (lock : CriticalSection) : Nat :=
  match lock.hold with
  | none => 0
  | some hold => hold.again + 1

/-- Enter, unless another thread is inside. -/
def enter? (lock : CriticalSection) (thread : ThreadId) : Option CriticalSection :=
  match lock.hold with
  | none => some { lock with hold := some ⟨thread, 0⟩ }
  | some hold =>
      if hold.owner = thread then some { lock with hold := some ⟨thread, hold.again + 1⟩ } else none

/-- Leave once. The section is free when the owner's only entry was left. -/
def leave (lock : CriticalSection) (thread : ThreadId) : Except SyncFault CriticalSection :=
  match lock.hold with
  | none => .error .notLocked
  | some ⟨owner, again⟩ =>
      if owner = thread then
        match again with
        | 0 => .ok { lock with hold := none }
        | again + 1 => .ok { lock with hold := some ⟨owner, again⟩ }
      else .error .notOwner

def debug (lock : CriticalSection) : String :=
  Text.record "Crst"
    [("owner", Text.optional (lock.owner?.map ThreadId.debug)),
      ("recursion_count", toString lock.depth), ("spin_count", toString lock.spins)]

end CriticalSection

end Steward.Sync
