import Steward.Host.Allocation
import Steward.Memory.Load
import Steward.Session.State

/-! The commands on heaps and on virtual memory. -/

set_option autoImplicit false

namespace Steward.Session

open Memory

def withHeap (session : Session) (name : String) (use : Nat → Progress × Session) :
    Progress × Session :=
  match session.heaps.get? name with
  | some serial => use serial
  | none => session.complain .noHeap

/-- Use a block, which must be there. -/
def withBlock (session : Session) (name : String) (use : Nat → Block → Progress × Session) :
    Progress × Session :=
  match session.blocks.get? name with
  | none => session.complain .noBlock
  | some serial =>
      match session.host.blocks.get? serial with
      | none => session.complain .noBlock
      | some block => use serial block

/-- Give back the block that goes by a name. -/
def dropBlock (session : Session) (name : String) (host : Host) : Host :=
  match session.blocks.get? name with
  | some serial => host.heapFree serial
  | none => host

/-- Take a block. One that went by the same name before is given back after that. -/
def allocBlock (session : Session) (thread : ThreadId) (heap : Nat) (name : String) (size : Nat)
    (level : CriticalLevel) : Progress × Session :=
  match session.host.heapAlloc thread heap size level with
  | (.error error, host) => { session with host }.refuse error
  | (.ok serial, host) =>
      { session with
        host := session.dropBlock name host
        blocks := session.blocks.insert name serial }.answer
          (.list [.natural size, .flag (size = 0),
            .flag ((host.blocks.get? serial).any Block.isZero)])

/-- Give a block back, and complain afterwards of a heap that is not there. -/
def freeBlock (session : Session) (name : String) (heap : Option String) : Progress × Session :=
  session.withBlock name fun serial _ =>
    let freed := { session with
      host := session.host.heapFree serial
      blocks := session.blocks.erase name }
    if heap.all freed.heaps.contains then freed.answer .nothing else freed.complain .noHeap

def regionInfo (info : RegionInfo) : Value :=
  .record [("address", .natural info.address), ("base", .natural info.base),
    ("size", .natural info.size), ("state", .text info.state.label),
    ("protection", .natural (FlagSet.bits info.protection))]

/-- Whether there is memory, no more than all of it is available, and no more than a hundred percent
is in use. -/
def loadChecks (load : Load) : Value :=
  .list [.flag (0 < load.total), .flag (load.available ≤ load.total), .flag (load.percent ≤ 100)]

def performMemory (session : Session) (thread : ThreadId) (command : MemoryCommand) :
    Progress × Session :=
  let host := session.host
  match command with
  | .createHeap name flags =>
      let (serial, host) := host.addHeap { flags }
      { session with heaps := session.heaps.insert name serial }.changed host
  | .alloc heap name size level =>
      session.withHeap heap fun serial => session.allocBlock thread serial name size level
  | .free name heap => session.freeBlock name heap
  | .writeBlock name offset data =>
      session.withBlock name fun serial block =>
        let written := block.write offset data
        { session with host := { host with blocks := host.blocks.insert serial written } }.answer
          (.bytes (written.first 64))
  | .releaseCharge name =>
      session.withBlock name fun serial _ =>
        let (bytes, registry) := host.registry.release (.block serial)
        { session with host := host.adopt registry }.answer (.natural bytes)
  | .heapState name =>
      session.withHeap name fun serial =>
        session.answer (.optional (fun heap => .list [.natural (FlagSet.bits heap.flags),
          .natural heap.liveBytes, .natural heap.liveBlocks]) (host.heaps.get? serial))
  | .virtualAlloc wanted size kind protection level =>
      session.attempted (host.virtualAlloc thread wanted size kind protection level) .natural
  | .virtualFree address size kind =>
      session.attempted (host.virtualFree address size kind) fun _ => .nothing
  | .query address => session.answer (regionInfo (host.space.query address))
  | .protect address size protection =>
      session.attempted (host.virtualProtect address size protection) fun previous =>
        .natural (FlagSet.bits previous)
  | .read address size => session.told (host.space.read address size) .bytes
  | .write address data =>
      session.attempted (host.virtualWrite address data) fun _ => .nothing
  | .totals =>
      session.answer (.list [.natural host.space.committedBytes,
        .natural host.space.regions.length])
  | .mapped address size => session.changed (host.mapped thread address size)
  | .unmapped address => session.changed (host.unmapped address)
  | .needsAddressSpace => session.answer (.flag false)
  | .watch => session.changed { host with memoryWatched := true }
  | .load =>
      match Load.ofListing session.listing.toList with
      | .error error => session.refuse error
      | .ok load => session.answer (loadChecks load)

end Steward.Session
