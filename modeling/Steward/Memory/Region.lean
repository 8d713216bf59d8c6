import Steward.Error
import Steward.Memory.Page

/-! A reservation: consecutive pages from a base address on, each committed or not. -/

set_option autoImplicit false

namespace Steward.Memory

structure Region where
  base : Nat
  pages : List Page
  deriving DecidableEq

inductive RegionState where
  | free
  | reserved
  | committed
  deriving DecidableEq

def RegionState.label : RegionState → String
  | free => "Free"
  | reserved => "Reserved"
  | committed => "Committed"

/-- What is known of the page at an address. -/
structure RegionInfo where
  address : Nat
  base : Nat
  size : Nat
  state : RegionState
  protection : Protection
  deriving DecidableEq

namespace Region

/-- A reservation with no page committed. -/
def reserve (base size : Nat) (protection : Protection) : Region :=
  ⟨base, List.replicate (pageCeil size / pageSize) ⟨protection, none⟩⟩

def size (region : Region) : Nat := region.pages.length * pageSize

/-- The address behind the last page, as an exact number. -/
def limit (region : Region) : Nat := region.base + region.size

/-- Whether the end, which is a sum of words, lies behind an address that is not below the base.
Where the sum passes the largest word it comes out below the base. -/
def endsBehind (region : Region) (address : Nat) : Bool :=
  region.limit ≤ Word.top && address < region.limit

/-- Whether an address is found to be in a reservation. A reservation that passes the largest word
is found to contain none. -/
def contains (region : Region) (address : Nat) : Bool :=
  region.base ≤ address && region.endsBehind address

def pageIndex (region : Region) (address : Nat) : Nat := (address - region.base) / pageSize

def committedBytes (region : Region) : Nat := region.pages.countP Page.isCommitted * pageSize

/-- The pages that a range touches, as the first index and the index behind the last. A range of
length zero runs to the end of the reservation. -/
def pageRange (region : Region) (address length : Nat) : Except Error (Nat × Nat) :=
  if region.contains address then
    let stop := if length = 0 then region.limit else pageCeil (Word.saturatingAdd address length)
    if region.limit < stop then
      .error (.invalidArgument (.rangePastEnd address length region.limit))
    else .ok (region.pageIndex (pageFloor address), region.pageIndex stop)
  else .error (.invalidArgument (.outsideRegion address region.base))

/-- The pages of an index range. -/
def slice (region : Region) (range : Nat × Nat) : List Page :=
  (region.pages.take range.2).drop range.1

/-- Change the pages of an index range. -/
def change (region : Region) (range : Nat × Nat) (update : Page → Page) : Region :=
  { region with pages := region.pages.mapIdx fun index page =>
      if range.1 ≤ index ∧ index < range.2 then update page else page }

def uncommittedBytes (region : Region) (range : Nat × Nat) : Nat :=
  (region.slice range).countP (fun page => !page.isCommitted) * pageSize

/-- Commit the pages of a range, and count the bytes that were not committed before. -/
def commit (region : Region) (range : Nat × Nat) (protection : Protection) : Nat × Region :=
  (region.uncommittedBytes range, region.change range (Page.commit protection))

/-- Give up the contents of a range, and count the bytes that were committed. -/
def decommit (region : Region) (range : Nat × Nat) : Nat × Region :=
  ((region.slice range).countP Page.isCommitted * pageSize, region.change range Page.decommit)

/-- Change the protection of committed pages, and give the one that the first page had. -/
def protect (region : Region) (range : Nat × Nat) (protection : Protection) :
    Except Error (Protection × Region) :=
  match region.slice range with
  | [] => .error (.invalidArgument .uncommittedProtect)
  | first :: rest =>
      if (first :: rest).all Page.isCommitted then
        .ok (first.protection, region.change range (Page.protect protection))
      else .error (.invalidArgument .uncommittedProtect)

def query (region : Region) (address : Nat) : Option RegionInfo :=
  region.pages[region.pageIndex address]?.map fun page =>
    ⟨pageFloor address, region.base, region.size,
      if page.isCommitted then .committed else .reserved, page.protection⟩

/-- The contents of the page at an address, if it may be accessed in the wanted way. -/
def access (region : Region) (address : Nat) (wanted : Protection) : Except Error (List UInt8) :=
  if region.contains address then
    match region.pages[region.pageIndex address]? with
    | none => .error (.invalidArgument (.accessPastEnd address region.limit))
    | some page =>
        match page.bytes with
        | none => .error (.invalidArgument (.uncommittedAccess address))
        | some bytes =>
            if page.protection.allows wanted then .ok bytes
            else .error (.invalidArgument (.accessDenied wanted address page.protection))
  else .error (.invalidArgument (.accessPastEnd address region.limit))

/-- Read piece by piece; the first piece that may not be read decides the error. -/
def readPieces (region : Region) : List (Nat × Nat) → Except Error (List UInt8)
  | [] => .ok []
  | (start, count) :: rest =>
      match region.access start .readOnly with
      | .error error => .error error
      | .ok bytes =>
          match region.readPieces rest with
          | .error error => .error error
          | .ok later => .ok ((bytes.drop (start % pageSize)).take count ++ later)

def read (region : Region) (address length : Nat) : Except Error (List UInt8) :=
  region.readPieces (pieces address length)

/-- Ask of every piece whether it may be written. -/
def checkWrite (region : Region) : List (Nat × Nat) → Except Error Unit
  | [] => .ok ()
  | (start, _) :: rest =>
      match region.access start .writeOnly with
      | .error error => .error error
      | .ok _ => region.checkWrite rest

def writePieces (region : Region) : List (Nat × Nat) → List UInt8 → Region
  | [], _ => region
  | (start, count) :: rest, data =>
      { region with
        pages := region.pages.modify (region.pageIndex start)
          (Page.write (start % pageSize) (data.take count)) }.writePieces rest (data.drop count)

/-- Write bytes, all of them or none. -/
def write (region : Region) (address : Nat) (data : List UInt8) : Except Error Region :=
  let parts := pieces address data.length
  match region.checkWrite parts with
  | .error error => .error error
  | .ok _ => .ok (region.writePieces parts data)

end Region

end Steward.Memory
