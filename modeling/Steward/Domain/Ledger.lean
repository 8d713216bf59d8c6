import Steward.Domain.Registry

/-! The ledger of charged bytes. A charge belongs to the thread that made it and to the domain the
thread was in; later growth at the same site goes to the same two. Sums of bytes are exact numbers.
The counters are words, and hold the sums as long as no thread, domain or site is charged more than
the largest one. -/

set_option autoImplicit false

namespace Steward.Domain.Registry

/-- The domain of a thread, when the bytes would take it past its budget. -/
def overBudget? (registry : Registry) (thread : ThreadId) (bytes : Nat) : Option DomainId := do
  let domain ← registry.bindings.get? thread
  let record ← registry.domains.get? domain
  if registry.limits.maxBytes ≠ 0 ∧
      registry.limits.maxBytes < Word.saturatingAdd record.bytes bytes then
    some domain
  else none

/-- Ask whether a thread may use more bytes. A thread in no domain always may. -/
def admitBytes (registry : Registry) (thread : ThreadId) (bytes : Nat) : Bool × Registry :=
  match registry.overBudget? thread bytes with
  | some domain => (false, registry.post ⟨.outOfMemory, domain, some thread⟩)
  | none => (true, registry)

def addDomainBytes (domains : Assoc DomainId Record) (domain : Option DomainId) (bytes : Nat) :
    Assoc DomainId Record :=
  match domain with
  | some domain => domains.modify domain fun record => { record with bytes := record.bytes + bytes }
  | none => domains

def subDomainBytes (domains : Assoc DomainId Record) (domain : Option DomainId) (bytes : Nat) :
    Assoc DomainId Record :=
  match domain with
  | some domain => domains.modify domain fun record => { record with bytes := record.bytes - bytes }
  | none => domains

/-- Take bytes off a thread's total; a total of zero is not kept. -/
def subThreadBytes (totals : Assoc ThreadId Nat) (thread : ThreadId) (bytes : Nat) :
    Assoc ThreadId Nat :=
  match totals.get? thread with
  | none => totals
  | some total =>
      if total ≤ bytes then totals.erase thread else totals.insert thread (total - bytes)

/-- Charge bytes at a site, to the charge that is already there or to a new one. The sums are taken
to be words. -/
def charge (registry : Registry) (thread : ThreadId) (bytes : Nat) (site : Site) : Registry :=
  let entry := registry.ledger.getD site ⟨registry.bindings.get? thread, thread, 0⟩
  { registry with
    domains := addDomainBytes registry.domains entry.domain bytes
    ledger := registry.ledger.insert site { entry with bytes := entry.bytes + bytes }
    threadBytes := registry.threadBytes.insert entry.thread
      (registry.threadBytes.getD entry.thread 0 + bytes) }

/-- Give bytes of a charge back to its domain and its thread. -/
def credit (registry : Registry) (entry : Charge) (bytes : Nat) : Registry :=
  { registry with
    domains := subDomainBytes registry.domains entry.domain bytes
    threadBytes := subThreadBytes registry.threadBytes entry.thread bytes }

/-- Release the whole charge of a site. -/
def release (registry : Registry) (site : Site) : Nat × Registry :=
  match registry.ledger.get? site with
  | none => (0, registry)
  | some entry =>
      (entry.bytes, { registry with ledger := registry.ledger.erase site }.credit entry entry.bytes)

/-- Release bytes of a site's charge, at most all of them. -/
def releasePartial (registry : Registry) (site : Site) (bytes : Nat) : Nat × Registry :=
  match registry.ledger.get? site with
  | none => (0, registry)
  | some entry =>
      let released := min bytes entry.bytes
      let ledger :=
        if entry.bytes - released = 0 then registry.ledger.erase site
        else registry.ledger.insert site { entry with bytes := entry.bytes - released }
      (released, { registry with ledger := ledger }.credit entry released)

/-- Set a domain's byte counter to zero and forget its charges. -/
def resetCounters (registry : Registry) (domain : DomainId) : Except Error Registry :=
  if registry.domains.contains domain then
    let forgotten := registry.ledger.filter fun _ entry => entry.domain = some domain
    .ok { registry with
      domains := registry.domains.modify domain fun record => { record with bytes := 0 }
      ledger := registry.ledger.filter fun _ entry => entry.domain ≠ some domain
      threadBytes := forgotten.values.foldl
        (fun totals entry => subThreadBytes totals entry.thread entry.bytes) registry.threadBytes }
  else .error (.domainNotFound domain)

end Steward.Domain.Registry
