import Steward.Proofs.Domain.Removal
import Steward.Proofs.Host.Call

/-! What becomes of a host when it unloads a domain while nobody waits for a notice. The domain
goes, and one notice takes the place of those about it. To unload a domain again does nothing more,
and the order of two unloads shows in the order of the two notices only. -/

set_option autoImplicit false

namespace Steward.Host

open Domain Registry

/-- Nobody waits for a notice. -/
def Unread (host : Host) : Prop :=
  ∀ thread wait, host.waits.get? thread = some wait → wait.target ≠ .notice

namespace Unread

variable {host : Host}

theorem wakeOne (unread : host.Unread) : host.wakeOne .notice = host := by
  have nobody : host.waits.entries.find? (isSleeper .notice) = none := by
    rw [List.find?_eq_none]
    intro entry inside
    have away := unread entry.1 entry.2 (Assoc.get?_of_mem inside)
    simp [isSleeper, away]
  rw [Host.wakeOne, nobody]

theorem wakeSome (unread : host.Unread) (count : Nat) : wakeSome .notice count host = host := by
  induction count with
  | zero => rfl
  | succ count ih => rw [Host.wakeSome, unread.wakeOne, ih]

theorem adopt (unread : host.Unread) (registry : Registry) :
    host.adopt registry = { host with registry } :=
  @wakeSome { host with registry } unread _

theorem heed_unload (unread : host.Unread) (domain : DomainId) :
    host.heed (.onDomains (.unload domain)) =
      { host with registry := host.registry.unload domain } :=
  unread.adopt _

theorem heed_unload_unload (unread : host.Unread) (first second : DomainId) :
    (host.heed (.onDomains (.unload first))).heed (.onDomains (.unload second)) =
      { host with registry := (host.registry.unload first).unload second } := by
  rw [unread.heed_unload first]
  exact @heed_unload { host with registry := host.registry.unload first } unread second

/-- The unload of a live domain removes its record and every binding to it, and leaves its charges
without a domain. It tells no manager, and the notices about the domain make room for the one that
it is unloaded. Where the domain is not live nothing changes, so that a second unload does nothing.
Unloads of two domains leave the same host in either order, but for the order of their notices. -/
theorem unload_exact (unread : host.Unread) (domain : DomainId) :
    let unload := fun (host : Host) domain => host.heed (.onDomains (.unload domain))
    let registry := host.registry
    (registry.domains.contains domain = true →
      ∃ after, unload host domain = { host with registry := after } ∧
        Removes domain registry after ∧
        after.events = ⟨(registry.events.pending.filter fun event => event.domain ≠ domain) ++
          [⟨.domainUnloaded, domain, none⟩], registry.events.accepted + 1⟩) ∧
    (registry.domains.contains domain = false → unload host domain = host) ∧
    unload (unload host domain) domain = unload host domain ∧
    ∀ other, other ≠ domain →
      let one := unload (unload host domain) other
      let two := unload (unload host other) domain
      (∃ kept,
        one.registry.events.pending =
          kept ++ registry.unloadNotice domain ++ registry.unloadNotice other ∧
        two.registry.events.pending =
          kept ++ registry.unloadNotice other ++ registry.unloadNotice domain) ∧
      one = { two with registry := { two.registry with
        events := { two.registry.events with pending := one.registry.events.pending } } } := by
  intro unload registry
  have twice : ∀ first second, unload (unload host first) second =
      { host with registry := (registry.unload first).unload second } := unread.heed_unload_unload
  refine ⟨fun live => ?_, fun gone => ?_, ?_, fun other apart => ?_⟩
  · refine ⟨_, unread.heed_unload domain, removes_unload live, ?_⟩
    rw [unload_of_live live]
  · refine (unread.heed_unload domain).trans ?_
    rw [unload_of_gone gone]
  · rw [twice, unload_unload]
    exact (unread.heed_unload domain).symm
  · intro one two
    have first : one = _ := twice domain other
    have second : two = _ := twice other domain
    rw [first, second]
    refine ⟨⟨_, pending_unload_unload (Ne.symm apart), ?_⟩, ?_⟩
    · simp only [Bool.or_comm (decide (_ = domain))]
      exact pending_unload_unload apart
    · exact congrArg (fun registry => { host with registry }) (unload_comm (Ne.symm apart))

/-- Two domains with notices about both of them, one that the first is unloaded among them, while
the main thread of the second sleeps. -/
def noticeBoard : List Call :=
  [.spawn, .spawn, .onDomains (.create ⟨1⟩ ⟨1⟩ "first"), .onDomains (.create ⟨2⟩ ⟨2⟩ "second"),
    .onDomains (.charge ⟨1⟩ 100 (.address 4096)), .post ⟨.domainUnloaded, ⟨1⟩, none⟩,
    .post ⟨.outOfMemory, ⟨2⟩, some ⟨2⟩⟩, .post ⟨.outOfTasks, ⟨1⟩, some ⟨1⟩⟩, .sleep ⟨2⟩ 5 {}]

theorem unload_exact_noticeBoard :
    ∃ start, create {} (fun _ => .ok (.memory 0 [])) = .ok start ∧
      let host := start.heedAll noticeBoard
      host.Unread ∧ host.registry.events.pending.length = 3 ∧
      ∃ after, host.heed (.onDomains (.unload ⟨1⟩)) = { host with registry := after } ∧
        Removes ⟨1⟩ host.registry after ∧
        after.events.pending =
          [⟨.outOfMemory, ⟨2⟩, some ⟨2⟩⟩, ⟨.domainUnloaded, ⟨1⟩, none⟩] ∧
        host.heed (.onDomains (.unload ⟨3⟩)) = host := by
  refine ⟨_, rfl, ?_⟩
  intro host
  have unread : host.Unread := by
    intro thread wait found
    cases List.mem_singleton.1 (Assoc.mem_of_get? found)
    nofun
  obtain ⟨after, unloaded, removes, events⟩ := (unread.unload_exact ⟨1⟩).1 (by decide)
  refine ⟨unread, rfl, after, unloaded, removes, ?_, (unread.unload_exact ⟨3⟩).2.1 (by decide)⟩
  exact (congrArg EventQueue.pending events).trans (by decide)

end Unread

end Steward.Host
