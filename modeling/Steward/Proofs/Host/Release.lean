import Steward.Proofs.Domain.Removal
import Steward.Proofs.Host.Register

/-! What becomes of a host when it releases a thread. A thread that is in no domain cannot be
released. One that is not the main thread leaves without the others, and a main thread takes its
domain along. Only then a manager is told, and what it sees is what is left. -/

set_option autoImplicit false

namespace Steward.Domain.Registry

variable {registry : Registry} {thread : ThreadId} {domain : DomainId} {record : Record}

/-- The counter of the domain that a thread is in tells whether anybody else is in it. -/
theorem Counted.alone_iff (counted : registry.Counted)
    (bound : registry.bindings.get? thread = some domain)
    (found : registry.domains.get? domain = some record) :
    record.threads - 1 = 0 ↔
      ∀ other, registry.bindings.get? other = some domain → other = thread := by
  have exact : record.threads = registry.bindings.total (presence domain) :=
    counted.counted domain record.threads (by simp [threads?, found])
  have parts := Assoc.total_erase_found bound (presence domain)
  simp only [presence, if_true] at parts
  have others : record.threads - 1 = (registry.bindings.erase thread).total (presence domain) := by
    rw [exact, ← parts]
    rfl
  rw [others]
  constructor
  · intro nobody other there
    by_contra apart
    have stays : (registry.bindings.erase thread).get? other = some domain := by
      rw [Assoc.get?_erase_of_ne _ apart, there]
    have counts := Assoc.le_total_of_get? (presence domain) stays
    simp [presence, nobody] at counts
  · intro alone
    refine Assoc.total_eq_zero _ fun entry inside => ?_
    have kept := List.mem_filter.1 inside
    refine if_neg fun same => of_decide_eq_true kept.2 ?_
    exact alone entry.1 (same ▸ Assoc.get?_of_mem kept.1)

end Steward.Domain.Registry

namespace Steward.Host

open Domain Registry

/-- Nobody wakes up for a register whose queue took no notice. -/
theorem adopt_of_accepted {host : Host} {registry : Registry}
    (same : registry.events.accepted = host.registry.events.accepted) :
    host.adopt registry = { host with registry } := by
  rw [adopt, same, Nat.sub_self]
  rfl

variable {host : Host} {thread : ThreadId} {domain : DomainId} {record : Record}

theorem releaseThread_of_unbound (unbound : host.registry.bindings.get? thread = none) :
    host.releaseThread thread = (.error (.threadNotBound thread), host) := by
  simp only [releaseThread, Registry.releaseThread, unbound]

/-- The thread leaves, and nobody is told. -/
theorem releaseThread_of_plain (counted : host.registry.Counted)
    (bound : host.registry.bindings.get? thread = some domain)
    (found : host.registry.domains.get? domain = some record) (plain : record.mainThread ≠ thread) :
    host.releaseThread thread =
      (.ok (), { host with registry := host.registry.leave thread }) := by
  obtain ⟨_, again, _, _, released⟩ := counted.releaseThread bound
  cases found.symm.trans again
  rw [if_neg plain] at released
  simp only [releaseThread, released]
  exact congrArg (Prod.mk _) (adopt_of_accepted rfl)

/-- The domain goes with its main thread, and then its manager is told. -/
theorem releaseThread_of_main (counted : host.registry.Counted)
    (bound : host.registry.bindings.get? thread = some domain)
    (found : host.registry.domains.get? domain = some record) (main : record.mainThread = thread) :
    let after := (host.registry.leave thread).drop domain
    let isEmpty := decide (record.threads - 1 = 0)
    host.registry.releaseThread thread = .ok (some ⟨record.manager, domain, isEmpty⟩, after) ∧
      host.releaseThread thread = (.ok (), { host with
        registry := after
        notes := host.notes ++ [.mainThreadExit domain isEmpty after.domains.size] }) := by
  intro after isEmpty
  obtain ⟨_, again, _, _, released⟩ := counted.releaseThread bound
  cases found.symm.trans again
  rw [if_pos main] at released
  refine ⟨released, ?_⟩
  have adopted : host.adopt after = { host with registry := after } := adopt_of_accepted rfl
  simp only [releaseThread, released]
  exact congrArg (fun left : Host => (Except.ok (), left.tell _)) adopted

/-- On a host that did whatever it did, the release of a thread that is in no domain fails and
changes nothing. A thread that is not the main one of its domain leaves it, and that is all. With a
main thread go the domain and every binding to it, while its charges stay without a domain; then the
manager of the domain, and nobody else, is told once, and told that the domain was empty just when
no other thread was in it. -/
theorem releaseThread_exact {config : Config} {opened : String → Except Error Trace.Sink}
    {start : Host} (created : create config opened = .ok start) (doings : List Doing)
    (count : Nat) (thread : ThreadId) :
    let host := start.undergone doings count
    let registry := host.registry
    (registry.bindings.get? thread = none →
      host.releaseThread thread = (.error (.threadNotBound thread), host)) ∧
    ∀ domain, registry.bindings.get? thread = some domain →
      ∃ record, registry.domains.get? domain = some record ∧
        record.threads = (registry.boundTo domain).length ∧ 0 < record.threads ∧
        (record.mainThread ≠ thread →
          ∃ after, host.releaseThread thread = (.ok (), { host with registry := after }) ∧
            Leaves thread domain record registry after) ∧
        (record.mainThread = thread →
          ∃ after isEmpty,
            host.releaseThread thread = (.ok (), { host with
              registry := after
              notes := host.notes ++ [.mainThreadExit domain isEmpty after.domains.size] }) ∧
            registry.releaseThread thread =
              .ok (some ⟨record.manager, domain, isEmpty⟩, after) ∧
            Removes domain registry after ∧ after.events = registry.events ∧
            (isEmpty = true ↔
              ∀ other, registry.bindings.get? other = some domain → other = thread)) := by
  intro host registry
  have counted : registry.Counted := counted_undergone created doings count
  refine ⟨releaseThread_of_unbound, fun domain bound => ?_⟩
  obtain ⟨record, found, positive⟩ := counted.positive bound
  have exact := counted.counted domain record.threads (by simp [threads?, found])
  have leaves := leaves_leave bound found
  refine ⟨record, found, exact.trans (length_boundTo registry domain).symm, positive,
    fun plain => ?_, fun main => ?_⟩
  · exact ⟨_, releaseThread_of_plain counted bound found plain, leaves⟩
  · obtain ⟨told, released⟩ := releaseThread_of_main counted bound found main
    refine ⟨_, _, released, told, leaves.removes bound (removes_drop _ domain), rfl, ?_⟩
    rw [decide_eq_true_iff]
    exact counted.alone_iff bound found

/-- A domain with its main thread and a guest, who charged some bytes to it, and a thread that is
nowhere. -/
def guestHouse : List Doing :=
  [.call .spawn, .call .spawn, .call .spawn, .act (.onDomains (.create ⟨1⟩ ⟨1⟩ "host")),
    .call (.onDomains (.acquireThread ⟨1⟩ ⟨2⟩)), .act (.mapped ⟨2⟩ 4096 100)]

theorem releaseThread_exact_guestHouse :
    ∃ start, create {} (fun _ => .ok (.memory 0 [])) = .ok start ∧
      let host := start.undergone guestHouse 6
      host.releaseThread ⟨3⟩ = (.error (.threadNotBound ⟨3⟩), host) ∧
      (∃ after, host.releaseThread ⟨2⟩ = (.ok (), { host with registry := after }) ∧
        Leaves ⟨2⟩ ⟨1⟩ ⟨⟨1⟩, 2, 100, "host"⟩ host.registry after) ∧
      ∃ after, host.releaseThread ⟨1⟩ = (.ok (), { host with
          registry := after
          notes := [.mainThreadExit ⟨1⟩ false 0] }) ∧
        Removes ⟨1⟩ host.registry after := by
  refine ⟨_, rfl, ?_⟩
  have exact := @releaseThread_exact {} (fun _ => .ok (.memory 0 [])) _ rfl guestHouse 6
  refine ⟨(exact ⟨3⟩).1 (by decide), ?_, ?_⟩
  · obtain ⟨record, found, _, _, plain, _⟩ := (exact ⟨2⟩).2 ⟨1⟩ (by decide)
    cases found
    exact plain (by decide)
  · obtain ⟨record, found, _, _, _, main⟩ := (exact ⟨1⟩).2 ⟨1⟩ (by decide)
    cases found
    obtain ⟨after, isEmpty, released, told, removes, _⟩ := main rfl
    cases told
    exact ⟨_, released, removes⟩

end Steward.Host
