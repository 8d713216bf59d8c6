import Steward.Trace.Event

/-! Where traced events go: to a buffer in memory, to a file, or to a disk that has no room. -/

set_option autoImplicit false

namespace Steward.Trace

/-- How many bytes are collected before they go to the disk. -/
def writeBuffer : Nat := 8192

inductive Sink where
  /-- The newest events, oldest first, at most the cap; a cap of zero keeps all. -/
  | memory (cap : Nat) (events : List Event)
  /-- The lines of a file. -/
  | file (lines : List String)
  /-- The bytes collected for a disk that takes none. -/
  | fullDisk (pending : Nat) (failed : Bool)
  deriving DecidableEq

namespace Sink

def isFile : Sink → Bool
  | memory _ _ => false
  | file _ | fullDisk _ _ => true

/-- Writing to the disk has failed, and was given up. -/
def hasFailed : Sink → Bool
  | fullDisk _ failed => failed
  | memory _ _ | file _ => false

def cap : Sink → Nat
  | memory cap _ => cap
  | file _ | fullDisk _ _ => 0

/-- Drop the oldest event where the cap is reached, and add the newest. -/
def push (cap : Nat) (events : List Event) (event : Event) : List Event :=
  if 0 < cap ∧ cap ≤ events.length then events.tail ++ [event] else events ++ [event]

def record (sink : Sink) (event : Event) : Sink :=
  match sink with
  | memory cap events => memory cap (push cap events event)
  | file lines => file (lines ++ [event.line])
  | fullDisk pending failed =>
      if failed then fullDisk pending true
      else
        let collected := pending + event.line.utf8ByteSize + 1
        fullDisk collected (decide (writeBuffer < collected))

def flush : Sink → Sink
  | fullDisk pending failed => fullDisk pending (failed || decide (0 < pending))
  | sink => sink

/-- Take the events in memory; there are none to take from a file. -/
def take : Sink → Option (List Event) × Sink
  | memory cap events => (some events, memory cap [])
  | sink => (none, sink)

/-- The lines that are on the disk. -/
def lines : Sink → List String
  | file lines => lines
  | memory _ _ | fullDisk _ _ => []

end Sink

end Steward.Trace
