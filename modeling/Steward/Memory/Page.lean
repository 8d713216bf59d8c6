import Steward.Word
import Steward.Memory.Protection

/-! Pages: their size, the rounding of addresses and lengths to it, and the state of one page. -/

set_option autoImplicit false

namespace Steward.Memory

def pageSize : Nat := 4096

/-- Reservations start at multiples of this. -/
def granularity : Nat := 0x10000

def pageFloor (value : Nat) : Nat := value / pageSize * pageSize

/-- Round up to a page, stopping below the end of the word range. -/
def pageCeil (value : Nat) : Nat := pageFloor (Word.saturatingAdd value (pageSize - 1))

/-- The least multiple of the granularity that is not below a value. -/
def granuleCeil (value : Nat) : Nat := (value + (granularity - 1)) / granularity * granularity

theorem le_granuleCeil (value : Nat) : value ≤ granuleCeil value := by
  unfold granuleCeil granularity
  omega

/-- The contents of a page that was just committed. -/
def blankPage : List UInt8 := List.replicate pageSize 0

/-- A page of a reservation. It has contents while it is committed. -/
structure Page where
  protection : Protection
  bytes : Option (List UInt8)
  deriving DecidableEq

namespace Page

def isCommitted (page : Page) : Bool := page.bytes.isSome

/-- Commit a page; one that is committed already keeps its contents. -/
def commit (protection : Protection) (page : Page) : Page :=
  ⟨protection, some (page.bytes.getD blankPage)⟩

def decommit (page : Page) : Page := { page with bytes := none }

def protect (protection : Protection) (page : Page) : Page := { page with protection }

/-- Put bytes into the contents, from an offset on. -/
def write (offset : Nat) (data : List UInt8) (page : Page) : Page :=
  { page with bytes := page.bytes.map fun old =>
      old.take offset ++ data ++ old.drop (offset + data.length) }

end Page

/-- The pieces of a range of addresses that lie in one page each, as start and length. -/
def pieces (address length : Nat) : List (Nat × Nat) :=
  if length = 0 then []
  else
    let count := min (pageSize - address % pageSize) length
    (address, count) :: pieces (address + count) (length - count)
termination_by length
decreasing_by
  have inside : address % pageSize < pageSize := Nat.mod_lt _ (by decide)
  omega

end Steward.Memory
