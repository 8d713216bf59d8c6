import Steward.Completion.Channel
import Steward.Deadlock.Owners
import Steward.Domain.Event
import Steward.Host.Manager
import Steward.Host.RuntimeEvent
import Steward.Memory.Protection
import Steward.Memory.Request
import Steward.Policy.Vocabulary
import Steward.Sync.Options

/-! The commands of a session. Objects go by name. Commands that wait may take a time, in
nanoseconds; without one they wait as long as it takes. -/

set_option autoImplicit false

namespace Steward.Session

inductive TaskCommand where
  | create (name : String)
  | start (name : String)
  | alert (name : String)
  | join (name : String) (timeout : Option Nat) (options : Sync.WaitOptions)
  | state (name : String)
  | setPriority (name : String) (level : Int)
  | setLogical (name : String) (managed : Nat)
  | addManaged (name : String) (managed : Nat)
  | current (name : Option String)
  | currentId
  | lookup (thread : ThreadId)
  | remove (thread : ThreadId)
  | count
  | logical (thread : ThreadId)
  | sleep (span : Nat) (options : Sync.WaitOptions)
  | yield

inductive DomainCommand where
  | create (domain : DomainId) (thread : ThreadId) (manager : String)
  /-- Create a domain whose main thread is the running one. -/
  | createHere (domain : DomainId) (manager : String)
  | admitThread (thread : ThreadId)
  | mayAcquire (thread : ThreadId)
  | acquire (parent child : ThreadId)
  | reserve (parent child : ThreadId)
  | release (thread : ThreadId)
  | unload (domain : DomainId)
  | rudeUnload
  | zombies
  | isSnippet (thread : ThreadId)
  | first
  | domainOf (thread : ThreadId)
  | mainThread (domain : DomainId)
  | threadCount (domain : DomainId)
  | memoryUsage (domain : DomainId)
  | threadMemory (thread : ThreadId)
  | resetCounters (domain : DomainId)
  | list
  | mayAcquireBytes (thread : ThreadId) (bytes : Nat)
  | acquireBytes (thread : ThreadId) (bytes address : Nat)
  | releaseBytes (address : Nat)
  | releasePartial (address bytes : Nat)

inductive HostCommand where
  | manager (kind : Host.ManagerKind)
  | config
  | applyPolicy (rejected : List String)
  | shutdown (timeout : Nat)
  | requestUnload (domain : DomainId)
  | post (event : Domain.Event)
  | poll (timeout : Option Nat)
  | purge (domain : DomainId)
  | queueLength
  | escalated (action : Policy.Action)
  | runtimeEvent (event : Host.RuntimeEvent)
  | blocking
  | suspending
  | resumed (generation : Nat)
  | collection

inductive MemoryCommand where
  | createHeap (name : String) (flags : Memory.HeapFlags)
  | alloc (heap name : String) (size : Nat) (level : Memory.CriticalLevel)
  | free (name : String) (heap : Option String)
  | writeBlock (name : String) (offset : Nat) (data : List UInt8)
  | releaseCharge (name : String)
  | heapState (name : String)
  | virtualAlloc (wanted : Option Nat) (size : Nat) (kind : Memory.AllocationKind)
      (protection : Memory.Protection) (level : Memory.CriticalLevel)
  | virtualFree (address size : Nat) (kind : Memory.FreeKind)
  | query (address : Nat)
  | protect (address size : Nat) (protection : Memory.Protection)
  | read (address size : Nat)
  | write (address : Nat) (data : List UInt8)
  | totals
  | mapped (address size : Nat)
  | unmapped (address : Nat)
  | needsAddressSpace
  | watch
  | load

inductive LockCommand where
  | create (spins : Nat)
  | enter
  | tryEnter
  | leave
  /-- Enter, tell the owner, and leave again; with `early`, leave once before that too. -/
  | guard (early : Bool)
  | setSpins (spins : Nat)
  | state

inductive SignalCommand where
  | create (initial : Bool)
  | set
  | reset
  | isSet
  | wait (timeout : Option Nat) (options : Sync.WaitOptions)

inductive SemaphoreCommand where
  | create (initial maximum : Nat)
  | wait (timeout : Option Nat) (options : Sync.WaitOptions)
  | release (slots : Nat)
  | count

inductive MonitorCommand where
  | create (cookie : Cookie)
  | set
  | reset
  | cookie
  | wait (timeout : Option Nat) (options : Sync.WaitOptions)

inductive DeadlockCommand where
  | install
  | own (cookie : Cookie) (thread : ThreadId)
  | disown (cookie : Cookie)
  | script (cookie : Cookie) (answers : List Deadlock.Prepared)
  | asked
  | tryEnter (thread : ThreadId) (cookie : Cookie)
  | detect (thread : ThreadId) (cookie : Cookie)
  | endEnter (thread : ThreadId)
  | state

inductive TraceCommand where
  | acquired (thread : ThreadId) (cookie : Cookie)
  | released (thread : ThreadId) (cookie : Cookie)
  | deadlock (report : Deadlock.Report)
  | enable (enabled : Bool)
  | held (thread : ThreadId)
  | order
  | state
  | flush
  | take
  | readFile

inductive CompletionCommand where
  | setCallback
  | createChannel
  | defaultChannel
  | close (channel : ChannelId)
  | bind (name : String) (channel : Option ChannelId) (resource : ResourceId)
  | post (name : String) (packet : Completion.Packet)
  | release (context : Nat)
  | seen
  | setMin (threads : Nat)
  | setMax (threads : Nat)
  | workers (channel : ChannelId)
  | state
  | queueItems (count : Nat) (panics : Bool)
  | setPoolMax (threads : Nat)
  | setPoolMin (threads : Nat)
  | poolMin
  | poolAvailable
  | poolState

/-- What a diagnostic text is asked of. -/
inductive Subject where
  | host
  | domains
  | tasks
  | sync
  | detector
  | trace
  | channels
  | pool
  | collection
  | runningThread
  | lock (name : String)
  | autoSignal (name : String)
  | manualSignal (name : String)
  | monitor (name : String)
  | semaphore (name : String)
  | heap (name : String)
  | binding (name : String)
  | task (name : String)

inductive Command where
  /-- Take a thread that the host did not create. -/
  | spawn (name : String)
  | task (command : TaskCommand)
  | domain (command : DomainCommand)
  | host (command : HostCommand)
  | memory (command : MemoryCommand)
  | lock (name : String) (command : LockCommand)
  /-- On a signal of one kind or the other: a lasting one, or one used up by each waiter. -/
  | signal (lasting : Bool) (name : String) (command : SignalCommand)
  | semaphore (name : String) (command : SemaphoreCommand)
  | monitor (name : String) (command : MonitorCommand)
  | deadlock (command : DeadlockCommand)
  | trace (command : TraceCommand)
  | completion (command : CompletionCommand)
  | debug (subject : Subject)

/-- What a step does on the thread of a name. -/
inductive Action where
  /-- Have it run a command, and wait for the answer. -/
  | run (command : Command)
  /-- Have it run a command. -/
  | launch (command : Command)
  /-- Wait for the answer of the command that was launched last. -/
  | await
  /-- Have it end, by itself or by a panic, and wait for that. The name is free then. -/
  | finish

structure Step where
  thread : String
  action : Action

end Steward.Session
