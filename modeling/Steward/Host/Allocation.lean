import Steward.Host.Waiting

/-! Memory on behalf of a thread. A request is admitted against the budget of the thread's domain
before anything happens, and charged once it succeeded. Reserved pages are free of charge; pages
are charged when they are committed and credited when they are given up. -/

set_option autoImplicit false

namespace Steward.Host

open Memory

/-- Ask for bytes. Urgent requests are granted without a look at the budget. -/
def grant (host : Host) (thread : ThreadId) (bytes : Nat) (level : CriticalLevel) : Bool × Host :=
  if level.bypassesBudget then (true, host)
  else
    match host.registry.admitBytes thread bytes with
    | (true, registry) => (true, host.adopt registry)
    | (false, registry) =>
        let denied := host.adopt registry
        (false, if denied.memoryWatched then denied.tell (.lowMemory thread bytes) else denied)

/-- Charge bytes at an address, if there are any. -/
def chargeAt (host : Host) (thread : ThreadId) (bytes base : Nat) : Host :=
  if bytes = 0 then host
  else { host with registry := host.registry.charge thread bytes (.address base) }

/-- Commit pages of a reservation that is there. Only pages that were not committed are asked for
and charged. -/
def commitInPlace (host : Host) (thread : ThreadId) (region : Region) (address size : Nat)
    (protection : Protection) (level : CriticalLevel) : Except Error Nat × Host :=
  match region.pageRange address size with
  | .error error => (.error error, host)
  | .ok range =>
      let needed := region.uncommittedBytes range
      match if needed = 0 then (true, host) else host.grant thread needed level with
      | (false, denied) => (.error (.outOfMemory needed), denied)
      | (true, host) =>
          let (committed, changed) := region.commit range protection
          (.ok (pageFloor address),
            { host with space := host.space.insert changed }.chargeAt thread committed region.base)

/-- Put a new reservation in place, committed or not. One that passes the largest word cannot be
committed. It has a wanted place: without one it would have to hold more pages than there can be. -/
def placeRegion (host : Host) (thread : ThreadId) (wanted : Option Nat) (length : Nat)
    (kind : AllocationKind) (protection : Protection) : Except Error Nat × Host :=
  match host.space.place wanted length with
  | .error error => (.error error, host)
  | .ok (base, space) =>
      let region := Region.reserve base length protection
      if kind.commit then
        match region.pageRange base length with
        | .error error => (.error error, host)
        | .ok range =>
            let (committed, changed) := region.commit range protection
            (.ok base, { host with space := space.insert changed }.chargeAt thread committed base)
      else (.ok base, { host with space := space.insert region })

/-- Reserve pages anew, and commit them if asked to. -/
def reserveAnew (host : Host) (thread : ThreadId) (wanted : Option Nat) (size : Nat)
    (kind : AllocationKind) (protection : Protection) (level : CriticalLevel) :
    Except Error Nat × Host :=
  let length := pageCeil size
  match if kind.commit then host.grant thread length level else (true, host) with
  | (false, denied) => (.error (.outOfMemory length), denied)
  | (true, host) => host.placeRegion thread wanted length kind protection

/-- Reserve or commit memory, and give the start of its first page. An address inside a reservation
asks for a commit there; any other is a wish for the place of a new reservation. -/
def virtualAlloc (host : Host) (thread : ThreadId) (wanted : Option Nat) (size : Nat)
    (kind : AllocationKind) (protection : Protection) (level : CriticalLevel) :
    Except Error Nat × Host :=
  if size = 0 ∨ FlagSet.isEmpty kind then
    (.error (.invalidArgument (.emptyRequest size kind)), host)
  else
    match wanted with
    | none => host.reserveAnew thread none size kind protection level
    | some address =>
        match host.space.regionAt? address with
        | none => host.reserveAnew thread (some address) size kind protection level
        | some region =>
            if kind.commit then host.commitInPlace thread region address size protection level
            else (.error (.invalidArgument (.alreadyReserved address)), host)

/-- Give up the contents of pages, or a whole reservation. -/
def virtualFree (host : Host) (address size : Nat) : FreeKind → Except Error Unit × Host
  | .release =>
      if size ≠ 0 then (.error (.invalidArgument .sizedRelease), host)
      else if host.space.hasBase address then
        (.ok (), { host with
          space := host.space.remove address
          registry := (host.registry.release (.address address)).2 })
      else (.error (.notFound (.reservation address)), host)
  | .decommit =>
      match host.space.region address with
      | .error error => (.error error, host)
      | .ok region =>
          match region.pageRange address size with
          | .error error => (.error error, host)
          | .ok range =>
              let (freed, changed) := region.decommit range
              (.ok (), { host with
                space := host.space.insert changed
                registry := if freed = 0 then host.registry
                  else (host.registry.releasePartial (.address region.base) freed).2 })

def virtualProtect (host : Host) (address size : Nat) (protection : Protection) :
    Except Error Protection × Host :=
  match host.space.protect address size protection with
  | .error error => (.error error, host)
  | .ok (previous, space) => (.ok previous, { host with space })

def virtualWrite (host : Host) (address : Nat) (data : List UInt8) : Except Error Unit × Host :=
  match host.space.write address data with
  | .error error => (.error error, host)
  | .ok space => (.ok (), { host with space })

/-- The runtime mapped memory of its own, which is noted and never denied. -/
def mapped (host : Host) (thread : ThreadId) (address size : Nat) : Host :=
  { host with registry := host.registry.charge thread size (.address address) }

def unmapped (host : Host) (address : Nat) : Host :=
  { host with registry := (host.registry.release (.address address)).2 }

/-- Take a block of zero bytes from a heap. -/
def heapAlloc (host : Host) (thread : ThreadId) (heap size : Nat) (level : CriticalLevel) :
    Except Error Nat × Host :=
  match host.grant thread size level with
  | (false, denied) => (.error (.outOfMemory size), denied)
  | (true, host) =>
      if blockLimit ≤ size then (.error (.outOfMemory size), host)
      else (.ok host.nextSerial, { host with
        registry := host.registry.charge thread size (.block host.nextSerial)
        heaps := host.heaps.modify heap fun heap => heap.take size
        blocks := host.blocks.insert host.nextSerial { heap, size }
        nextSerial := host.nextSerial + 1 })

/-- Give a block back to its heap. -/
def heapFree (host : Host) (serial : Nat) : Host :=
  match host.blocks.get? serial with
  | none => host
  | some block => { host with
      registry := (host.registry.release (.block serial)).2
      heaps := host.heaps.modify block.heap fun heap => heap.giveBack block.size
      blocks := host.blocks.erase serial }

end Steward.Host
