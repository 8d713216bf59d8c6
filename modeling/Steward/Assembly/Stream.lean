import Steward.Error
import Steward.Word

/-! A reader over bytes that do not change. The position may lie past the end, where there is
nothing to read. -/

set_option autoImplicit false

namespace Steward.Assembly

structure Stream where
  data : List UInt8
  position : Nat := 0
  deriving DecidableEq

/-- Why a reader could not do what it was asked. -/
inductive StreamFault where
  | seekBeforeStart
  | endReached
  deriving DecidableEq

def StreamFault.message : StreamFault → String
  | seekBeforeStart => "seek before the start of the stream"
  | endReached => "failed to fill whole buffer"

/-- Where a move of the position starts. -/
inductive Seek where
  | start (offset : Nat)
  | current (delta : Int)
  | fromEnd (delta : Int)
  deriving DecidableEq

namespace Stream

def size (stream : Stream) : Nat := stream.data.length

/-- The bytes not yet read. -/
def rest (stream : Stream) : List UInt8 := stream.data.drop stream.position

/-- Read up to a number of bytes. -/
def read (stream : Stream) (count : Nat) : List UInt8 × Stream :=
  let bytes := stream.rest.take count
  (bytes, { stream with position := stream.position + bytes.length })

/-- Read a number of bytes or fail; what is left is consumed either way. -/
def readExact (stream : Stream) (count : Nat) : Except StreamFault (List UInt8) × Stream :=
  let (bytes, moved) := stream.read count
  if bytes.length = count then (.ok bytes, moved) else (.error .endReached, moved)

def readToEnd (stream : Stream) : List UInt8 × Stream := stream.read stream.size

/-- The position that a move leads to, which has to be a word. -/
def target? (stream : Stream) : Seek → Option Nat
  | .start offset => some offset
  | .current delta => Word.offset? stream.position delta
  | .fromEnd delta => Word.offset? stream.size delta

def seek (stream : Stream) (move : Seek) : Except StreamFault Stream :=
  match stream.target? move with
  | some position => .ok { stream with position }
  | none => .error .seekBeforeStart

def debug (stream : Stream) : String :=
  Text.record "AssemblyStream"
    [("len", toString stream.size), ("position", toString stream.position)]

end Stream

/-- A part of a buffer, which has to lie inside it. -/
def slice (data : List UInt8) (offset length : Nat) : Except Error (List UInt8) :=
  if offset + length ≤ data.length then .ok ((data.drop offset).take length)
  else .error (.invalidArgument (.outsideBuffer offset length data.length))

/-- Open the file at a path, where there is one. -/
def openFile (files : String → Option (List UInt8)) (path : String) : Except Error Stream :=
  match files path with
  | some data => .ok ⟨data, 0⟩
  | none => .error (.system (.code 2))

end Steward.Assembly
