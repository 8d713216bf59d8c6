import Steward.Memory.Request
import Steward.Text.Record

/-! Private heaps and the blocks that are taken from them. -/

set_option autoImplicit false

namespace Steward.Memory

structure Heap where
  flags : HeapFlags
  liveBytes : Nat := 0
  liveBlocks : Nat := 0
  deriving DecidableEq

/-- A block of a heap. Behind the bytes that were written it is zero. -/
structure Block where
  heap : Nat
  size : Nat
  written : List UInt8 := []
  deriving DecidableEq

/-- From this size on, no system supplies a block. -/
def blockLimit : Nat := 0x8000000000000000

namespace Heap

def take (heap : Heap) (size : Nat) : Heap :=
  { heap with liveBytes := heap.liveBytes + size, liveBlocks := heap.liveBlocks + 1 }

def giveBack (heap : Heap) (size : Nat) : Heap :=
  { heap with liveBytes := heap.liveBytes - size, liveBlocks := heap.liveBlocks - 1 }

def debug (heap : Heap) : String :=
  Text.record "Allocator"
    [("flags", FlagSet.debug heap.flags), ("live_bytes", toString heap.liveBytes),
      ("live_blocks", toString heap.liveBlocks)]

end Heap

namespace Block

/-- The first bytes of a block. -/
def first (block : Block) (count : Nat) : List UInt8 :=
  (block.written ++ List.replicate count 0).take (min count block.size)

/-- Every byte of the block is zero. -/
def isZero (block : Block) : Bool := block.written.all fun byte => byte = 0

def write (block : Block) (offset : Nat) (data : List UInt8) : Block :=
  let before := (block.written ++ List.replicate offset 0).take offset
  { block with written := before ++ data ++ block.written.drop (offset + data.length) }

end Block

end Steward.Memory
