import Steward.Assoc
import Steward.Word
import Steward.Error
import Steward.Domain.Event

/-! The register of live domains: which threads are bound to each, and the bytes that are charged
to it. A thread is bound to at most one domain, and the first domain ever created stays the
default one. -/

set_option autoImplicit false

namespace Steward.Domain

/-- The caps of every domain; zero means that there is none. -/
structure Limits where
  maxThreads : Nat := 64
  maxBytes : Nat := 256 * 1024 * 1024
  deriving DecidableEq

def Limits.unlimited : Limits := ⟨0, 0⟩

/-- A live domain. Its manager is told when the main thread exits. -/
structure Record where
  mainThread : ThreadId
  threads : Nat
  bytes : Nat
  manager : String
  deriving DecidableEq

/-- Where a charge is kept: at an address, or at a heap block, which has no address in common
with anything else. -/
inductive Site where
  | address (value : Nat)
  | block (serial : Nat)
  deriving DecidableEq

/-- Bytes in use, the thread that asked for them, and its domain while that one lives. -/
structure Charge where
  domain : Option DomainId
  thread : ThreadId
  bytes : Nat
  deriving DecidableEq

structure Registry where
  limits : Limits := {}
  domains : Assoc DomainId Record := {}
  bindings : Assoc ThreadId DomainId := {}
  /-- The first domain ever created, and its manager. -/
  first : Option (DomainId × String) := none
  ledger : Assoc Site Charge := {}
  threadBytes : Assoc ThreadId Nat := {}
  /-- Forced unloads, of which it is not known which domain they hit. -/
  zombies : Nat := 0
  events : EventQueue := {}

namespace Registry

def domainOf? (registry : Registry) (thread : ThreadId) : Option DomainId :=
  registry.bindings.get? thread

/-- A thread that runs in a domain other than the default one. -/
def isSnippet (registry : Registry) (thread : ThreadId) : Bool :=
  match registry.domainOf? thread, registry.first with
  | some domain, some default => domain ≠ default.1
  | _, _ => false

def record (registry : Registry) (domain : DomainId) : Except Error Record :=
  match registry.domains.get? domain with
  | some record => .ok record
  | none => .error (.domainNotFound domain)

def threadMemory (registry : Registry) (thread : ThreadId) : Nat :=
  registry.threadBytes.getD thread 0

/-- The live domains in ascending order. -/
def live (registry : Registry) : List DomainId :=
  registry.domains.keys.mergeSort fun first second => first.value ≤ second.value

def post (registry : Registry) (event : Event) : Registry :=
  { registry with events := registry.events.add event }

/-- Count one thread less for the domain that a thread leaves. -/
def uncount (registry : Registry) (thread : ThreadId) : Assoc DomainId Record :=
  match registry.bindings.get? thread with
  | some domain =>
      registry.domains.modify domain fun record => { record with threads := record.threads - 1 }
  | none => registry.domains

/-- Move a thread into a domain, out of the one it was in. -/
def bind (registry : Registry) (domain : DomainId) (thread : ThreadId) : Registry :=
  { registry with
    domains := (registry.uncount thread).modify domain fun record =>
      { record with threads := record.threads + 1 }
    bindings := registry.bindings.insert thread domain }

/-- Charges of a domain that is gone stay in the ledger and count against no domain. -/
def detach (domain : DomainId) (charge : Charge) : Charge :=
  if charge.domain = some domain then { charge with domain := none } else charge

/-- Drop a domain's record and every binding to it, and detach its charges. -/
def drop (registry : Registry) (domain : DomainId) : Registry :=
  { registry with
    domains := registry.domains.erase domain
    bindings := registry.bindings.filter fun _ bound => bound ≠ domain
    ledger := registry.ledger.mapValues fun _ charge => detach domain charge }

def debug (registry : Registry) : String :=
  Text.record "DomainRegistry"
    [("domains", toString registry.domains.size), ("bindings", toString registry.bindings.size),
      ("default_domain", Text.optional (registry.first.map fun default => default.1.debug)),
      ("zombies", toString registry.zombies)]

end Registry

end Steward.Domain
