import Steward.Text.Hex
import Steward.Text.Record

/-! Sets of flags that have a bit and a name each. A set is written as the names of its flags
in the order in which the flags are declared. -/

set_option autoImplicit false

namespace Steward

/-- One flag of a set: the position of its bit, its name, and the question whether it is set. -/
structure Flag (Flags : Type) where
  position : Nat
  label : String
  isSet : Flags → Bool

/-- A type of flag sets. -/
class FlagSet (Flags : Type) where
  title : String
  members : List (Flag Flags)
  /-- Read a set from its bits; bits that no flag has are dropped. -/
  ofBits : Nat → Flags

namespace FlagSet

variable {Flags : Type} [FlagSet Flags]

def bits (flags : Flags) : Nat :=
  members.foldr (fun flag rest => if flag.isSet flags then 1 <<< flag.position + rest else rest) 0

def isEmpty (flags : Flags) : Bool := members.all fun flag => !flag.isSet flags

def isAll (flags : Flags) : Bool := members.all fun flag => flag.isSet flags

/-- The names of the flags that are set, and the empty set as the number zero. -/
def text (flags : Flags) : String :=
  if isEmpty flags then Text.hex 0
  else " | ".intercalate ((members.filter fun flag => flag.isSet flags).map Flag.label)

def debug (flags : Flags) : String := Text.wrapped (title Flags) (text flags)

/-- No bit is set that belongs to no flag. -/
def validBits (Flags : Type) [FlagSet Flags] (value : Nat) : Bool :=
  bits (ofBits value : Flags) = value

end FlagSet

end Steward
