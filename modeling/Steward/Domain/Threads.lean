import Steward.Domain.Registry

/-! How domains come and go, and how threads join and leave them under the thread cap. A domain
ends when its main thread is released or when it is unloaded. -/

set_option autoImplicit false

namespace Steward.Domain

/-- What a manager is told once its domain's main thread was released. -/
structure MainExit where
  manager : String
  domain : DomainId
  /-- No other thread was bound to the domain. -/
  isEmpty : Bool
  deriving DecidableEq

namespace Registry

/-- Register a domain. Its creating thread is the main thread and moves there from wherever it
was bound. -/
def create (registry : Registry) (domain : DomainId) (thread : ThreadId) (manager : String) :
    Except Error Registry :=
  if registry.domains.contains domain then .error (.domainExists domain)
  else .ok { registry with
    domains := (registry.uncount thread).insert domain ⟨thread, 1, 0, manager⟩
    bindings := registry.bindings.insert thread domain
    first := some (registry.first.getD (domain, manager)) }

/-- The domain of a thread, when it is at its thread cap. -/
def fullDomain? (registry : Registry) (thread : ThreadId) : Option DomainId := do
  let domain ← registry.bindings.get? thread
  let record ← registry.domains.get? domain
  if registry.limits.maxThreads ≠ 0 ∧ registry.limits.maxThreads ≤ record.threads then
    some domain
  else none

def denyThread (registry : Registry) (domain : DomainId) (parent : ThreadId) : Error × Registry :=
  (.threadLimit domain registry.limits.maxThreads,
    registry.post ⟨.outOfTasks, domain, some parent⟩)

/-- Ask whether a thread may create another. A thread in no domain always may. -/
def admitThread (registry : Registry) (parent : ThreadId) : Except Error Unit × Registry :=
  match registry.fullDomain? parent with
  | some domain =>
      let (denial, registry) := registry.denyThread domain parent
      (.error denial, registry)
  | none => (.ok (), registry)

/-- Bind a thread to its parent's domain, whatever the cap. -/
def acquireThread (registry : Registry) (parent child : ThreadId) : Except Error Registry :=
  match registry.bindings.get? parent with
  | none => .error (.threadNotBound parent)
  | some domain =>
      if registry.domains.contains domain then .ok (registry.bind domain child)
      else .error (.domainNotFound domain)

/-- Bind a thread to its parent's domain if the cap allows one more. -/
def reserveThread (registry : Registry) (parent child : ThreadId) :
    Except Error (Option DomainId) × Registry :=
  match registry.bindings.get? parent with
  | none => (.ok none, registry)
  | some domain =>
      match registry.fullDomain? parent with
      | some full =>
          let (denial, registry) := registry.denyThread full parent
          (.error denial, registry)
      | none =>
          if registry.domains.contains domain then
            (.ok (some domain), registry.bind domain child)
          else (.error (.domainNotFound domain), registry)

/-- Unbind a thread. A main thread takes its domain with it, and the manager is to be told. -/
def releaseThread (registry : Registry) (thread : ThreadId) :
    Except Error (Option MainExit × Registry) :=
  match registry.bindings.get? thread with
  | none => .error (.threadNotBound thread)
  | some domain =>
      let left := { registry with
        domains := registry.uncount thread
        bindings := registry.bindings.erase thread }
      match left.domains.get? domain with
      | none => .ok (none, left)
      | some record =>
          if record.mainThread = thread then
            .ok (some ⟨record.manager, domain, record.threads = 0⟩, left.drop domain)
          else .ok (none, left)

/-- Remove a domain, and with it the notices about it that nobody took. -/
def unload (registry : Registry) (domain : DomainId) : Registry :=
  if registry.domains.contains domain then
    let left := registry.drop domain
    { left with events := (left.events.purge domain).2.add ⟨.domainUnloaded, domain, none⟩ }
  else registry

def rudeUnload (registry : Registry) : Registry :=
  { registry with zombies := registry.zombies + 1 }

end Registry

end Steward.Domain
