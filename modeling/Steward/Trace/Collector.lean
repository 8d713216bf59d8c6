import Steward.Assoc
import Steward.Trace.Sink

/-! The lock trace: which locks each thread holds, in which orders locks were acquired, and a
record of events. Two locks that were acquired in both orders may deadlock one day. -/

set_option autoImplicit false

namespace Steward.Trace

structure Collector where
  enabled : Bool
  /-- The most events kept in memory, as configured; zero means all. -/
  maxEvents : Nat
  sink : Sink
  /-- The locks of each thread that holds any, oldest first. -/
  held : Assoc ThreadId (List Cookie) := {}
  /-- For each lock, the other locks that some thread held when it acquired this one. -/
  earlier : Assoc Cookie (List Cookie) := {}
  recorded : Nat := 0

namespace Collector

def heldBy (collector : Collector) (thread : ThreadId) : List Cookie :=
  collector.held.getD thread []

def earlierThan (collector : Collector) (cookie : Cookie) : List Cookie :=
  collector.earlier.getD cookie []

/-- Add a lock that is not there yet. -/
def addLock (locks : List Cookie) (cookie : Cookie) : List Cookie :=
  if cookie ∈ locks then locks else locks ++ [cookie]

def record (collector : Collector) (event : Event) : Collector :=
  { collector with
    recorded := collector.recorded + 1
    sink := collector.sink.record event }

def onAcquired (collector : Collector) (thread : ThreadId) (cookie : Cookie) : Collector :=
  if collector.enabled then
    let before := collector.heldBy thread
    { collector with
      held := collector.held.insert thread (before ++ [cookie])
      earlier := collector.earlier.insert cookie
        ((before.filter fun other => other ≠ cookie).foldl addLock
          (collector.earlierThan cookie)) }.record
            (.acquired thread cookie (before.length + 1))
  else collector

/-- Take away the last occurrence of a lock. -/
def eraseLast (held : List Cookie) (cookie : Cookie) : List Cookie :=
  (held.reverse.erase cookie).reverse

def onReleased (collector : Collector) (thread : ThreadId) (cookie : Cookie) : Collector :=
  if collector.enabled then
    let left := eraseLast (collector.heldBy thread) cookie
    { collector with
      held := if left.isEmpty then collector.held.erase thread
        else collector.held.insert thread left }.record (.released thread cookie)
  else collector

def onDeadlock (collector : Collector) (report : Deadlock.Report) : Collector :=
  if collector.enabled then
    collector.record (.deadlock report.participants report.cookies)
  else collector

/-- Switch tracing. Switching it off forgets what threads hold. -/
def setEnabled (collector : Collector) (enabled : Bool) : Collector :=
  { collector with
    enabled
    held := if enabled then collector.held else {} }

def pairBefore (first second : Cookie × Cookie) : Bool :=
  first.1.value < second.1.value ||
    (first.1.value == second.1.value && first.2.value ≤ second.2.value)

/-- The pairs of locks of which the second was acquired while the first was held, in ascending
order. -/
def lockOrder (collector : Collector) : List (Cookie × Cookie) :=
  (collector.earlier.entries.flatMap fun entry =>
    entry.2.map fun other => (other, entry.1)).mergeSort pairBefore

/-- The pairs that were acquired in both orders, the smaller lock first. -/
def inversions (collector : Collector) : List (Cookie × Cookie) :=
  collector.lockOrder.filter fun pair =>
    pair.1.value < pair.2.value && decide (pair.2 ∈ collector.earlierThan pair.1)

def flush (collector : Collector) : Collector := { collector with sink := collector.sink.flush }

def take (collector : Collector) : Option (List Event) × Collector :=
  let (events, sink) := collector.sink.take
  (events, { collector with sink })

def debug (collector : Collector) : String :=
  Text.openRecord "LockTraceCollector"
    [("enabled", toString collector.enabled), ("is_file_based", toString collector.sink.isFile),
      ("file_failed", toString collector.sink.hasFailed),
      ("max_events", toString collector.maxEvents),
      ("event_count", toString collector.recorded)]

end Collector

end Steward.Trace
