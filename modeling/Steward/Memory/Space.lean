import Steward.Memory.Region

/-! The address space: reservations in ascending order of their bases. A reservation without a
wanted address goes to the first gap at or above a mark that only moves up. -/

set_option autoImplicit false

namespace Steward.Memory

structure Space where
  regions : List Region := []
  /-- Where the search for a gap starts. -/
  next : Nat := 0x10000000
  deriving DecidableEq

namespace Space

/-- The reservation with the greatest base that is not above an address. -/
def below? (space : Space) (address : Nat) : Option Region :=
  (space.regions.filter fun region => region.base ≤ address).getLast?

/-- The reservation that an address lies in. -/
def regionAt? (space : Space) (address : Nat) : Option Region :=
  (space.below? address).filter fun region => region.contains address

def region (space : Space) (address : Nat) : Except Error Region :=
  match space.regionAt? address with
  | some region => .ok region
  | none => .error (.notFound (.reservation address))

/-- No reservation meets a range. -/
def isFree (space : Space) (base size : Nat) : Bool :=
  let stop := Word.saturatingAdd base size
  let before := (space.regions.filter fun region => region.base < base).getLast?
  !(before.any fun region => region.endsBehind base) &&
    !(space.regions.any fun region => base ≤ region.base && region.base < stop)

/-- The first gap of a size at or above a base, past reservations in ascending order. Its sums are
exact numbers: where the words have no such gap, it lies behind them. -/
def firstGap (size : Nat) : Nat → List Region → Nat
  | base, [] => base
  | base, region :: rest =>
      if region.limit ≤ base then firstGap size base rest
      else if base + size ≤ region.base then base
      else firstGap size (granuleCeil region.limit) rest

/-- Choose a base: the wanted address rounded down, which must be free, or the first gap. -/
def place (space : Space) (wanted : Option Nat) (size : Nat) : Except Error (Nat × Space) :=
  match wanted with
  | some address =>
      let base := address / granularity * granularity
      if space.isFree base size then .ok (base, space)
      else .error (.invalidArgument (.overlap base))
  | none =>
      let base := firstGap size space.next space.regions
      .ok (base, { space with next := granuleCeil (base + size) })

/-- Put a reservation in, in place of one with the same base. -/
def insert (space : Space) (region : Region) : Space :=
  { space with regions :=
      (space.regions.filter fun other => other.base < region.base) ++
        region :: space.regions.filter fun other => region.base < other.base }

def remove (space : Space) (base : Nat) : Space :=
  { space with regions := space.regions.filter fun region => region.base ≠ base }

def hasBase (space : Space) (base : Nat) : Bool :=
  space.regions.any fun region => region.base = base

/-- What is known of an address; outside all reservations it is a free page of its own. -/
def query (space : Space) (address : Nat) : RegionInfo :=
  ((space.regionAt? address).bind fun region => region.query address).getD
    ⟨pageFloor address, pageFloor address, pageSize, .free, .noAccess⟩

def committedBytes (space : Space) : Nat :=
  space.regions.foldr (fun region rest => region.committedBytes + rest) 0

def read (space : Space) (address length : Nat) : Except Error (List UInt8) :=
  match space.region address with
  | .error error => .error error
  | .ok region => region.read address length

def write (space : Space) (address : Nat) (data : List UInt8) : Except Error Space :=
  match space.region address with
  | .error error => .error error
  | .ok region =>
      match region.write address data with
      | .error error => .error error
      | .ok written => .ok (space.insert written)

/-- Change the protection of a range of committed pages; a length of zero counts as one byte. -/
def protect (space : Space) (address length : Nat) (protection : Protection) :
    Except Error (Protection × Space) :=
  match space.region address with
  | .error error => .error error
  | .ok region =>
      match region.pageRange address (max length 1) with
      | .error error => .error error
      | .ok range =>
          match region.protect range protection with
          | .error error => .error error
          | .ok (previous, changed) => .ok (previous, space.insert changed)

end Space

end Steward.Memory
