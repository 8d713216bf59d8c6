import Steward.Ident
import Steward.Memory.Protection
import Steward.Memory.Request

/-! The causes for which an operation fails, and the message of each. -/

set_option autoImplicit false

namespace Steward

/-- A failure of the operating system: by its number, or with a text of its own. -/
inductive SystemFault where
  | code (number : Int)
  | other (text : String)
  deriving DecidableEq

inductive SyncFault where
  | notOwner
  | notLocked
  | semaphoreOverflow
  deriving DecidableEq

def SyncFault.message : SyncFault → String
  | notOwner => "thread does not own the lock"
  | notLocked => "lock is not held"
  | semaphoreOverflow => "semaphore count would overflow"

/-- What was looked for and is not there. -/
inductive Missing where
  | reservation (address : Nat)
  | openChannel (channel : ChannelId)
  | closedChannel (channel : ChannelId)
  | other (name : String)
  deriving DecidableEq

def Missing.message : Missing → String
  | reservation address => "no reservation at " ++ Text.hex address
  | openChannel channel => channel.text ++ " is not open"
  | closedChannel channel => channel.text ++ " is closed"
  | other name => name

/-- Why an argument is refused. -/
inductive Misuse where
  | emptyRequest (size : Nat) (kind : Memory.AllocationKind)
  | alreadyReserved (address : Nat)
  | overlap (base : Nat)
  | sizedRelease
  | outsideRegion (address base : Nat)
  | rangePastEnd (address length regionEnd : Nat)
  | accessPastEnd (address regionEnd : Nat)
  | uncommittedAccess (address : Nat)
  | accessDenied (access : Memory.Protection) (address : Nat) (protection : Memory.Protection)
  | uncommittedProtect
  | unknownPriority (priority : Int)
  | semaphoreBounds (initial maximum : Nat)
  | outsideBuffer (offset length size : Nat)
  | noMemoryField (name : String)
  | emptyWorkerPool
  | rejected (call : String)
  | other (text : String)
  deriving DecidableEq

def Misuse.message : Misuse → String
  | emptyRequest size kind =>
      "virtual_alloc of " ++ toString size ++ " bytes with " ++ FlagSet.debug kind
  | alreadyReserved address => Text.hex address ++ " is already reserved"
  | overlap base => "range at " ++ Text.hex base ++ " overlaps an existing reservation"
  | sizedRelease => "release requires a zero size"
  | outsideRegion address base =>
      Text.hex address ++ " is outside the region at " ++ Text.hex base
  | rangePastEnd address length regionEnd =>
      "range " ++ Text.hex address ++ "+" ++ Text.hex length ++ " runs past the region end " ++
        Text.hex regionEnd
  | accessPastEnd address regionEnd =>
      "access at " ++ Text.hex address ++ " runs past the region end " ++ Text.hex regionEnd
  | uncommittedAccess address => "access to uncommitted page at " ++ Text.hex address
  | accessDenied access address protection =>
      FlagSet.debug access ++ " access denied at " ++ Text.hex address ++ " (" ++
        FlagSet.debug protection ++ ")"
  | uncommittedProtect => "protection change on uncommitted pages"
  | unknownPriority priority => "unknown thread priority " ++ toString priority
  | semaphoreBounds initial maximum =>
      "semaphore initial count " ++ toString initial ++ " with maximum " ++ toString maximum
  | outsideBuffer offset length size =>
      "range " ++ toString offset ++ "+" ++ toString length ++ " is outside a " ++ toString size ++
        " byte buffer"
  | noMemoryField name => "meminfo has no " ++ name
  | emptyWorkerPool => "work-item pool needs at least one thread"
  | rejected call => "rejected " ++ call
  | other text => text

inductive Unsupported where
  | workerPoolMinimum
  | workerPoolAvailability
  deriving DecidableEq

def Unsupported.message : Unsupported → String
  | workerPoolMinimum => "work-item pool minimum"
  | workerPoolAvailability => "work-item pool availability"

inductive Error where
  | threadLimit (domain : DomainId) (limit : Nat)
  | outOfMemory (requested : Nat)
  | domainNotFound (domain : DomainId)
  | domainExists (domain : DomainId)
  | threadNotBound (thread : ThreadId)
  | taskNotFound (thread : ThreadId)
  | assemblyNotFound (identity : String)
  | notFound (what : Missing)
  | threadCreation (fault : SystemFault)
  | waitFailed (text : String)
  | channelLimit (limit : Nat)
  | invalidArgument (why : Misuse)
  | sync (fault : SyncFault)
  | notSupported (what : Unsupported)
  | lock (text : String)
  | system (fault : SystemFault)
  deriving DecidableEq

namespace Error

/-- A thread can wait for any thread's end but its own. -/
def selfJoin (thread : ThreadId) : Error := waitFailed (thread.text ++ " cannot join itself")

/-- The message of an error. A numbered failure of the system has only the system's own text. -/
def message : Error → Option String
  | threadLimit domain limit =>
      some ("Domain " ++ domain.text ++ " reached its limit of " ++ toString limit ++ " threads")
  | outOfMemory requested =>
      some ("Out of memory - " ++ toString requested ++ " bytes could not be provided")
  | domainNotFound domain => some ("Domain " ++ domain.text ++ " not found")
  | domainExists domain => some ("Domain " ++ domain.text ++ " already exists")
  | threadNotBound thread => some ("Thread " ++ thread.text ++ " is not bound to any domain")
  | taskNotFound thread => some ("No task registered for thread " ++ thread.text)
  | assemblyNotFound identity => some ("Assembly not found - " ++ identity)
  | notFound what => some ("Not found - " ++ what.message)
  | threadCreation (.other text) => some ("Failed to create thread - " ++ text)
  | waitFailed text => some ("Wait failed - " ++ text)
  | channelLimit limit => some ("Completion port limit of " ++ toString limit ++ " reached")
  | invalidArgument why => some ("Invalid argument - " ++ why.message)
  | sync fault => some fault.message
  | notSupported what => some ("Operation not supported - " ++ what.message)
  | lock text => some text
  | system (.other text) => some text
  | threadCreation (.code _) | system (.code _) => none

/-- A limit that the host was given turned the request down. -/
def isAdmissionDenial : Error → Bool
  | threadLimit _ _ | outOfMemory _ => true
  | _ => false

def isNotFound : Error → Bool
  | domainNotFound _ | threadNotBound _ | taskNotFound _ | assemblyNotFound _ | notFound _ => true
  | _ => false

/-- The system's number for the failure, where it has one. -/
def systemCode? : Error → Option Int
  | threadCreation (.code number) | system (.code number) => some number
  | _ => none

end Error

end Steward
