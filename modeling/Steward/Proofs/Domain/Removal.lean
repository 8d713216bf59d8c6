import Steward.Proofs.Domain.Backlog
import Steward.Proofs.Domain.Belonging
import Steward.Proofs.Domain.Delivery
import Steward.Proofs.Domain.Leaving

/-! What goes with a thread that leaves its domain, and with a domain that ends; nothing else does.
Domains may be unloaded in any order, and only their notices come in that order. -/

set_option autoImplicit false

namespace Steward.Domain.Registry

variable {registry after : Registry} {domain other : DomainId} {thread : ThreadId}
  {record : Record}

/-- A thread is in no domain any more, and the domain that it was in counts one thread less. -/
structure Leaves (thread : ThreadId) (domain : DomainId) (record : Record)
    (before after : Registry) : Prop where
  domains : ∀ other, after.domains.get? other =
    if other = domain then some { record with threads := record.threads - 1 }
    else before.domains.get? other
  bindings : ∀ other, after.bindings.get? other =
    if other = thread then none else before.bindings.get? other
  rest : after = { before with domains := after.domains, bindings := after.bindings }

/-- A domain is gone, and nobody is bound to it. Its charges are where they were, but belong to no
domain. What became of the notices is left open. -/
structure Removes (domain : DomainId) (before after : Registry) : Prop where
  domains : ∀ other, after.domains.get? other =
    if other = domain then none else before.domains.get? other
  bindings : ∀ thread, after.bindings.get? thread =
    if before.bindings.get? thread = some domain then none else before.bindings.get? thread
  ledger : ∀ site, after.ledger.get? site = (before.ledger.get? site).map fun charge =>
    { charge with domain := if charge.domain = some domain then none else charge.domain }
  rest : after = { before with
    domains := after.domains, bindings := after.bindings, ledger := after.ledger,
    events := after.events }

theorem detach_eq (domain : DomainId) (charge : Charge) :
    detach domain charge =
      { charge with domain := if charge.domain = some domain then none else charge.domain } := by
  unfold detach
  split <;> rfl

theorem leaves_leave (bound : registry.bindings.get? thread = some domain)
    (found : registry.domains.get? domain = some record) :
    Leaves thread domain record registry (registry.leave thread) where
  domains place := by
    by_cases same : place = domain
    · subst same
      simp [leave, get?_uncount, bound, found]
    · rw [if_neg same]
      exact leave_domains_of_ne bound same
  bindings place := Assoc.get?_erase ..
  rest := rfl

theorem removes_drop (registry : Registry) (domain : DomainId) :
    Removes domain registry (registry.drop domain) where
  domains place := Assoc.get?_erase ..
  bindings guest := by
    simp only [drop, Assoc.get?_filter]
    cases registry.bindings.get? guest with
    | none => rfl
    | some home => by_cases same : home = domain <;> simp [same, Option.filter]
  ledger site := by
    simp only [drop, Assoc.get?_mapValues]
    exact Option.map_congr fun charge _ => detach_eq domain charge
  rest := rfl

/-- Who leaves a domain that ends takes nothing along that would not have gone. -/
theorem Leaves.removes {left : Registry} (leaves : Leaves thread domain record registry left)
    (bound : registry.bindings.get? thread = some domain) (removes : Removes domain left after) :
    Removes domain registry after where
  domains place := by
    rw [removes.domains, leaves.domains]
    split
    · rfl
    · rfl
  bindings guest := by
    rw [removes.bindings, leaves.bindings]
    by_cases same : guest = thread
    · rw [same, if_pos rfl, if_pos bound]
      exact ite_self none
    · rw [if_neg same]
  ledger site := by
    rw [removes.ledger, leaves.rest]
  rest := by
    rw [removes.rest, leaves.rest]

/-! ### Unloading -/

theorem unload_of_gone (gone : registry.domains.contains domain = false) :
    registry.unload domain = registry := by
  rw [unload, gone]
  rfl

/-- The notices about a domain make room for the one that it is unloaded. -/
theorem unload_of_live (live : registry.domains.contains domain = true) :
    registry.unload domain = { registry.drop domain with
      events := ⟨(registry.events.pending.filter fun event => event.domain ≠ domain) ++
        [⟨.domainUnloaded, domain, none⟩], registry.events.accepted + 1⟩ } := by
  have lacks : ((registry.events.purge domain).2.pending.any
      (Event.same ⟨.domainUnloaded, domain, none⟩)) = false := by
    rw [EventQueue.pending_purge, List.any_eq_false]
    intro event inside
    have apart := of_decide_eq_true (List.mem_filter.1 inside).2
    simp [Event.same, Ne.symm apart]
  have posted : (registry.events.purge domain).2.add ⟨.domainUnloaded, domain, none⟩ =
      ⟨(registry.events.purge domain).2.pending ++ [⟨.domainUnloaded, domain, none⟩],
        registry.events.accepted + 1⟩ := by
    rw [EventQueue.add, EventQueue.post, lacks]
    rfl
  simp only [unload, live, if_true]
  exact congrArg (fun events => { registry.drop domain with events }) posted

theorem removes_unload (live : registry.domains.contains domain = true) :
    Removes domain registry (registry.unload domain) := by
  rw [unload_of_live live]
  exact { removes_drop registry domain with rest := rfl }

theorem contains_unload (registry : Registry) (domain other : DomainId) :
    (registry.unload domain).domains.contains other =
      (registry.domains.contains other && decide (other ≠ domain)) := by
  cases live : registry.domains.contains domain with
  | true =>
    rw [unload_of_live live]
    exact registry.contains_drop domain other
  | false =>
    rw [unload_of_gone live]
    by_cases same : other = domain
    · simp [same, live]
    · simp [same]

theorem unload_unload (registry : Registry) (domain : DomainId) :
    (registry.unload domain).unload domain = registry.unload domain :=
  unload_of_gone (by simp [contains_unload])

theorem detach_comm (first second : DomainId) (charge : Charge) :
    detach second (detach first charge) = detach first (detach second charge) := by
  by_cases same : first = second
  · rw [same]
  · by_cases here : charge.domain = some first
    · simp [detach, here, same]
    · by_cases there : charge.domain = some second
      · simp [detach, there, Ne.symm same]
      · simp [detach, here, there]

theorem drop_comm (registry : Registry) (first second : DomainId) :
    (registry.drop first).drop second = (registry.drop second).drop first := by
  simp only [drop, Assoc.erase, Assoc.mapValues_mapValues, detach_comm first]
  rw [Assoc.filter_comm registry.domains, Assoc.filter_comm registry.bindings]

/-- The notice that a domain is unloaded, if there is anything to unload. -/
def unloadNotice (registry : Registry) (domain : DomainId) : List Event :=
  if registry.domains.contains domain then [⟨.domainUnloaded, domain, none⟩] else []

theorem events_unload (registry : Registry) (domain : DomainId) :
    (registry.unload domain).events =
      ⟨(registry.events.pending.filter fun event =>
          !(registry.domains.contains domain && decide (event.domain = domain))) ++
        registry.unloadNotice domain,
        registry.events.accepted + (registry.unloadNotice domain).length⟩ := by
  cases live : registry.domains.contains domain with
  | true => simp [unload_of_live live, unloadNotice, live]
  | false =>
    have all : registry.events.pending.filter (fun _ => true) = registry.events.pending :=
      List.filter_eq_self.2 fun _ _ => rfl
    simp [unload_of_gone live, unloadNotice, live, all]

theorem unloadNotice_unload (apart : other ≠ domain) :
    (registry.unload domain).unloadNotice other = registry.unloadNotice other := by
  simp [unloadNotice, contains_unload, apart]

theorem pending_unload_unload {first second : DomainId} (apart : first ≠ second) :
    ((registry.unload first).unload second).events.pending =
      (registry.events.pending.filter fun event =>
        !(registry.domains.contains event.domain &&
          (decide (event.domain = first) || decide (event.domain = second)))) ++
        registry.unloadNotice first ++ registry.unloadNotice second := by
  -- The notice of the first one is not about the second one.
  have kept : (registry.unloadNotice first).filter (fun event =>
      !((registry.unload first).domains.contains second && decide (event.domain = second))) =
      registry.unloadNotice first := by
    refine List.filter_eq_self.2 fun event inside => ?_
    have about : event.domain = first := by
      unfold unloadNotice at inside
      split at inside
      · rw [List.mem_singleton.1 inside]
      · cases inside
    simp [about, apart]
  rw [events_unload, events_unload, unloadNotice_unload (Ne.symm apart), List.filter_append,
    List.filter_filter, kept]
  refine congrArg (· ++ _ ++ _) (List.filter_congr fun event _ => ?_)
  rw [contains_unload]
  by_cases here : event.domain = first
  · simp [here, apart]
  · by_cases there : event.domain = second
    · simp [there, Ne.symm apart]
    · simp [here, there]

theorem unload_comm_of_gone {first second : DomainId}
    (gone : registry.domains.contains first = false) :
    (registry.unload first).unload second = (registry.unload second).unload first := by
  have still : (registry.unload second).domains.contains first = false := by
    simp [contains_unload, gone]
  rw [unload_of_gone gone, unload_of_gone still]

theorem unload_unload_of_live {first second : DomainId} (apart : first ≠ second)
    (live : registry.domains.contains first = true)
    (lives : registry.domains.contains second = true) :
    (registry.unload first).unload second = { (registry.drop first).drop second with
      events := ((registry.unload first).unload second).events } := by
  have still : (registry.unload first).domains.contains second = true := by
    simp [contains_unload, lives, Ne.symm apart]
  simp only [unload_of_live still]
  rw [unload_of_live live]
  rfl

/-- The order in which domains are unloaded shows in the order of their notices only. -/
theorem unload_comm {first second : DomainId} (apart : first ≠ second) :
    let one := (registry.unload first).unload second
    let two := (registry.unload second).unload first
    one = { two with events := { two.events with pending := one.events.pending } } := by
  intro one two
  have accepted : one.events = { two.events with pending := one.events.pending } := by
    simp only [one, two, events_unload, unloadNotice_unload apart,
      unloadNotice_unload (Ne.symm apart), Nat.add_right_comm]
  cases live : registry.domains.contains first with
  | false =>
    have same : one = two := unload_comm_of_gone live
    rw [same]
  | true =>
    cases lives : registry.domains.contains second with
    | false =>
      have same : two = one := unload_comm_of_gone lives
      rw [same]
    | true =>
      have drops : two = { (registry.drop second).drop first with events := two.events } :=
        unload_unload_of_live (Ne.symm apart) lives live
      rw [← accepted, drops, ← drop_comm]
      exact unload_unload_of_live apart live lives

end Steward.Domain.Registry
