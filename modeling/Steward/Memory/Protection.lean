import Steward.Flags

/-! What may be done with a page, and the page protection codes that operating systems of the
Windows family use for it. -/

set_option autoImplicit false

namespace Steward.Memory

structure Protection where
  read : Bool := false
  write : Bool := false
  execute : Bool := false
  deriving DecidableEq, Inhabited

namespace Protection

def noAccess : Protection := {}

def readOnly : Protection := { read := true }

def writeOnly : Protection := { write := true }

def readWrite : Protection := { read := true, write := true }

instance : FlagSet Protection where
  title := "MemoryProtection"
  members := [⟨0, "READ", read⟩, ⟨1, "WRITE", write⟩, ⟨2, "EXECUTE", execute⟩]
  ofBits bits := ⟨bits.testBit 0, bits.testBit 1, bits.testBit 2⟩

/-- Every kind of access that `wanted` names is allowed. -/
def allows (protection wanted : Protection) : Bool :=
  (!wanted.read || protection.read) && (!wanted.write || protection.write) &&
    (!wanted.execute || protection.execute)

/-- Read a protection code. Only the low byte counts, and an unknown code means read and write. -/
def ofPageCode (code : Nat) : Protection :=
  match code % 256 with
  | 0x01 => noAccess
  | 0x02 => readOnly
  | 0x10 => { execute := true }
  | 0x20 => { read := true, execute := true }
  | 0x40 | 0x80 => { read := true, write := true, execute := true }
  | _ => readWrite

/-- The code of a protection; there is none for writing without reading, which counts as both. -/
def pageCode : Protection → Nat
  | ⟨false, false, false⟩ => 0x01
  | ⟨true, false, false⟩ => 0x02
  | ⟨_, true, false⟩ => 0x04
  | ⟨false, false, true⟩ => 0x10
  | ⟨true, false, true⟩ => 0x20
  | ⟨_, true, true⟩ => 0x40

end Protection

end Steward.Memory
