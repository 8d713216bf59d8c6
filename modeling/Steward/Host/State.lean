import Steward.Completion.Crew
import Steward.Completion.WorkItems
import Steward.Deadlock.Detector
import Steward.Deadlock.Owners
import Steward.Domain.Ledger
import Steward.Domain.Threads
import Steward.Host.Config
import Steward.Host.Wait
import Steward.Memory.Collection
import Steward.Memory.Heap
import Steward.Memory.Space
import Steward.Sync.CriticalSection
import Steward.Sync.Semaphore
import Steward.Sync.Signal
import Steward.Tasks.Table
import Steward.Trace.Collector

/-! A host: its managers, the threads it knows, and the waits that are in progress. Everything that
threads do to it is a total step from one host to the next. A call is one step up to where it waits,
although the program may take several locks for it, one after the other, and other threads can come
in between. Where a call is taken apart in the program and that can be told, its parts stand beside
it. -/

set_option autoImplicit false

namespace Steward

/-- What the host tells its embedder at once. -/
inductive Note where
  /-- A domain ended with its main thread, and so many domains are left. -/
  | mainThreadExit (domain : DomainId) (isEmpty : Bool) (left : Nat)
  | lowMemory (thread : ThreadId) (requested : Nat)
  deriving DecidableEq

/-- How far a thread that the host created is in ending. -/
inductive Departure where
  | unbinding
  | unlisting
  | marking
  deriving DecidableEq

structure Host where
  config : Host.Config
  clock : Nat := 0
  registry : Domain.Registry
  /-- The threads that were given a number, and the next number. -/
  controls : Assoc ThreadId Tasks.Control := {}
  nextThread : Nat := 1
  tasks : Tasks.Table := {}
  leaving : Assoc ThreadId Departure := {}
  /-- The objects that threads share, by serial number, and the next number. -/
  signals : Assoc Nat Sync.Signal := {}
  semaphores : Assoc Nat Sync.Semaphore := {}
  locks : Assoc Nat Sync.CriticalSection := {}
  heaps : Assoc Nat Memory.Heap := {}
  blocks : Assoc Nat Memory.Block := {}
  nextSerial : Nat := 0
  /-- At most one wait for each thread; threads that sleep longer come first. -/
  waits : Assoc ThreadId Host.Wait := {}
  detector : Deadlock.Detector := {}
  owners : Deadlock.Owners := {}
  trace : Trace.Collector
  space : Memory.Space := {}
  /-- Somebody wants to hear of denied memory. -/
  memoryWatched : Bool := false
  crew : Completion.Crew
  workItems : Completion.WorkItems
  collection : Memory.Collection := {}
  /-- How often the runtime reported that it escalated. -/
  escalations : Nat := 0
  runtimeEvents : Nat := 0
  runtimeDisabled : Bool := false
  /-- What the embedder was told since it last looked, oldest first. -/
  notes : List Note := []

namespace Host

/-- Where the lock trace goes. A path is opened by the system, which may fail. -/
def traceSink (config : TraceConfig) (opened : String → Except Error Trace.Sink) :
    Except Error Trace.Sink :=
  match config.path with
  | some path => opened path
  | none => .ok (.memory config.maxEvents [])

def create (config : Config) (opened : String → Except Error Trace.Sink) : Except Error Host :=
  match traceSink config.trace opened with
  | .error error => .error error
  | .ok sink => .ok {
      config
      registry := { limits := config.limits }
      trace := ⟨config.trace.enabled, config.trace.maxEvents, sink, {}, {}, 0⟩
      crew := {
        maxChannels := config.completion.maxChannels
        minThreads := config.completion.minThreads
        maxThreads := config.completion.maxThreads }
      workItems := { maxThreads := config.poolThreads } }

/-- Give a thread a number. -/
def addThread (host : Host) (control : Tasks.Control) : ThreadId × Host :=
  (⟨host.nextThread⟩, { host with
    controls := host.controls.insert ⟨host.nextThread⟩ control
    nextThread := host.nextThread + 1 })

def control (host : Host) (thread : ThreadId) : Tasks.Control := host.controls.getD thread {}

def addSignal (host : Host) (signal : Sync.Signal) : Nat × Host :=
  (host.nextSerial, { host with
    signals := host.signals.insert host.nextSerial signal
    nextSerial := host.nextSerial + 1 })

def addSemaphore (host : Host) (semaphore : Sync.Semaphore) : Nat × Host :=
  (host.nextSerial, { host with
    semaphores := host.semaphores.insert host.nextSerial semaphore
    nextSerial := host.nextSerial + 1 })

def addLock (host : Host) (lock : Sync.CriticalSection) : Nat × Host :=
  (host.nextSerial, { host with
    locks := host.locks.insert host.nextSerial lock
    nextSerial := host.nextSerial + 1 })

def addHeap (host : Host) (heap : Memory.Heap) : Nat × Host :=
  (host.nextSerial, { host with
    heaps := host.heaps.insert host.nextSerial heap
    nextSerial := host.nextSerial + 1 })

def tell (host : Host) (note : Note) : Host := { host with notes := host.notes ++ [note] }

/-- The manager of a kind, where the host offers it. -/
def offers (host : Host) (kind : ManagerKind) : Bool := host.config.managers.offers kind

/-- The runtime escalated. A forced unload of a domain leaves a zombie. -/
def escalated (host : Host) (action : Policy.Action) : Host :=
  { host with
    escalations := host.escalations + 1
    registry := if action = .rudeUnloadDomain then host.registry.rudeUnload else host.registry }

def debug (host : Host) : String :=
  Text.record "HostControl"
    [("managers", FlagSet.debug host.config.managers),
      ("domains", toString host.registry.domains.size), ("tasks", toString host.tasks.size)]

end Host

end Steward
