import Steward.Proofs.Domain.Operation
import Steward.Proofs.Total

/-! The two counters of a live domain, its threads and its bytes, and what every change of the
register does to them. -/

set_option autoImplicit false

namespace Steward.Domain.Registry

variable (registry : Registry)

/-- The thread counter of a domain, if it is live. -/
def threads? (domain : DomainId) : Option Nat :=
  (registry.domains.get? domain).map Record.threads

/-- The byte counter of a domain, if it is live. -/
def bytes? (domain : DomainId) : Option Nat :=
  (registry.domains.get? domain).map Record.bytes

theorem isSome_threads? (domain : DomainId) :
    (registry.threads? domain).isSome = registry.domains.contains domain := by
  simp [threads?, Assoc.contains]

theorem isSome_bytes? (domain : DomainId) :
    (registry.bytes? domain).isSome = registry.domains.contains domain := by
  simp [bytes?, Assoc.contains]

theorem get?_uncount (thread : ThreadId) (domain : DomainId) :
    (registry.uncount thread).get? domain = (registry.domains.get? domain).map fun record =>
      if registry.bindings.get? thread = some domain then
        { record with threads := record.threads - 1 }
      else record := by
  unfold uncount
  cases bound : registry.bindings.get? thread with
  | none => simp
  | some home =>
    simp only [Assoc.get?_modify, Option.some.injEq]
    refine Option.map_congr fun record _ => ?_
    by_cases same : domain = home <;> simp [same, eq_comm]

theorem threads?_leave (thread : ThreadId) (domain : DomainId) :
    (registry.leave thread).threads? domain = (registry.threads? domain).map fun count =>
      if registry.bindings.get? thread = some domain then count - 1 else count := by
  simp only [threads?, leave, get?_uncount, Option.map_map]
  refine Option.map_congr fun record _ => ?_
  by_cases bound : registry.bindings.get? thread = some domain <;> simp [bound]

theorem bytes?_leave (thread : ThreadId) (domain : DomainId) :
    (registry.leave thread).bytes? domain = registry.bytes? domain := by
  simp only [bytes?, leave, get?_uncount, Option.map_map]
  refine Option.map_congr fun record _ => ?_
  by_cases bound : registry.bindings.get? thread = some domain <;> simp [bound]

theorem threads?_bind (domain other : DomainId) (thread : ThreadId) :
    (registry.bind domain thread).threads? other =
      ((registry.leave thread).threads? other).map fun count =>
        if other = domain then count + 1 else count := by
  simp only [threads?, bind, leave, Assoc.get?_modify, Option.map_map]
  refine Option.map_congr fun record _ => ?_
  by_cases same : other = domain <;> simp [same]

theorem bytes?_bind (domain other : DomainId) (thread : ThreadId) :
    (registry.bind domain thread).bytes? other = registry.bytes? other := by
  rw [← registry.bytes?_leave thread]
  simp only [bytes?, bind, leave, Assoc.get?_modify, Option.map_map]
  refine Option.map_congr fun record _ => ?_
  by_cases same : other = domain <;> simp [same]

theorem threads?_found (domain other : DomainId) (thread : ThreadId) (manager : String) :
    (registry.found domain thread manager).threads? other =
      if other = domain then some 1 else (registry.leave thread).threads? other := by
  simp only [threads?, found, leave, Assoc.get?_insert]
  by_cases same : other = domain <;> simp [same]

theorem bytes?_found (domain other : DomainId) (thread : ThreadId) (manager : String) :
    (registry.found domain thread manager).bytes? other =
      if other = domain then some 0 else registry.bytes? other := by
  rw [← registry.bytes?_leave thread]
  simp only [bytes?, found, leave, Assoc.get?_insert]
  by_cases same : other = domain <;> simp [same]

theorem threads?_drop (domain other : DomainId) :
    (registry.drop domain).threads? other =
      if other = domain then none else registry.threads? other := by
  simp only [threads?, drop, Assoc.get?_erase]
  by_cases same : other = domain <;> simp [same]

theorem bytes?_drop (domain other : DomainId) :
    (registry.drop domain).bytes? other =
      if other = domain then none else registry.bytes? other := by
  simp only [bytes?, drop, Assoc.get?_erase]
  by_cases same : other = domain <;> simp [same]

theorem get?_addDomainBytes (domains : Assoc DomainId Record) (target : Option DomainId)
    (bytes : Nat) (domain : DomainId) :
    (addDomainBytes domains target bytes).get? domain = (domains.get? domain).map fun record =>
      { record with bytes := record.bytes + if target = some domain then bytes else 0 } := by
  cases target with
  | none => simp [addDomainBytes]
  | some home =>
    simp only [addDomainBytes, Assoc.get?_modify, Option.some.injEq]
    refine Option.map_congr fun record _ => ?_
    by_cases same : domain = home <;> simp [same, eq_comm]

theorem get?_subDomainBytes (domains : Assoc DomainId Record) (target : Option DomainId)
    (bytes : Nat) (domain : DomainId) :
    (subDomainBytes domains target bytes).get? domain = (domains.get? domain).map fun record =>
      { record with bytes := record.bytes - if target = some domain then bytes else 0 } := by
  cases target with
  | none => simp [subDomainBytes]
  | some home =>
    simp only [subDomainBytes, Assoc.get?_modify, Option.some.injEq]
    refine Option.map_congr fun record _ => ?_
    by_cases same : domain = home <;> simp [same, eq_comm]

/-- The charge that grows when a thread is charged at a site. -/
def entry (thread : ThreadId) (site : Site) : Charge :=
  registry.ledger.getD site ⟨registry.bindings.get? thread, thread, 0⟩

theorem threads?_charge (thread : ThreadId) (bytes : Nat) (site : Site) (domain : DomainId) :
    (registry.charge thread bytes site).threads? domain = registry.threads? domain := by
  simp only [threads?, charge, get?_addDomainBytes, Option.map_map]
  rfl

theorem bytes?_charge (thread : ThreadId) (bytes : Nat) (site : Site) (domain : DomainId) :
    (registry.charge thread bytes site).bytes? domain = (registry.bytes? domain).map fun used =>
      used + if (registry.entry thread site).domain = some domain then bytes else 0 := by
  simp only [bytes?, charge, get?_addDomainBytes, Option.map_map]
  rfl

theorem threads?_credit (charge : Charge) (bytes : Nat) (domain : DomainId) :
    (registry.credit charge bytes).threads? domain = registry.threads? domain := by
  simp only [threads?, credit, get?_subDomainBytes, Option.map_map]
  rfl

theorem bytes?_credit (charge : Charge) (bytes : Nat) (domain : DomainId) :
    (registry.credit charge bytes).bytes? domain = (registry.bytes? domain).map fun used =>
      used - if charge.domain = some domain then bytes else 0 := by
  simp only [bytes?, credit, get?_subDomainBytes, Option.map_map]
  rfl

theorem threads?_releasePartial (site : Site) (bytes : Nat) (domain : DomainId) :
    (registry.releasePartial site bytes).2.threads? domain = registry.threads? domain := by
  unfold releasePartial
  split
  · rfl
  · exact threads?_credit _ _ _ _

theorem threads?_forget (domain other : DomainId) :
    (registry.forget domain).threads? other = registry.threads? other := by
  simp only [threads?, forget, Assoc.get?_modify, Option.map_map]
  refine Option.map_congr fun record _ => ?_
  by_cases same : other = domain <;> simp [same]

theorem bytes?_forget (domain other : DomainId) :
    (registry.forget domain).bytes? other = (registry.bytes? other).map fun used =>
      if other = domain then 0 else used := by
  simp only [bytes?, forget, Assoc.get?_modify, Option.map_map]
  refine Option.map_congr fun record _ => ?_
  by_cases same : other = domain <;> simp [same]

end Steward.Domain.Registry
