import Steward.Proofs.Domain.Operation

/-! The backlog of notices. Whatever is done to the register, a notice that comes to wait in the
queue is one that was accepted and counted. -/

set_option autoImplicit false

namespace Steward.Domain

/-- Of the notices that wait, no more came in than were accepted meanwhile. -/
def EventQueue.Accounts (before after : EventQueue) : Prop :=
  after.pending.length + before.accepted ≤ before.pending.length + after.accepted

/-- An operation that can change the queue of notices. -/
def Operation.notifies : Operation → Bool
  | admitThread _ | admitBytes _ _ | reserveThread _ _ | unload _ => true
  | _ => false

namespace EventQueue

theorem Accounts.refl (queue : EventQueue) : queue.Accounts queue := Nat.le_refl _

theorem accounts_post (queue : EventQueue) (event : Event) :
    queue.Accounts (queue.post event).2 := by
  unfold post Accounts
  split
  · exact Nat.le_refl _
  · simp only [List.length_append, List.length_singleton]
    omega

theorem accounts_purge (queue : EventQueue) (domain : DomainId) :
    queue.Accounts (queue.purge domain).2 :=
  Nat.add_le_add_right (List.length_filter_le _ _) _

end EventQueue

namespace Registry

theorem events_orElse (registry : Registry) {made : Except Error Registry}
    (same : ∀ changed, made = .ok changed → changed.events = registry.events) :
    (registry.orElse made).events = registry.events := by
  cases made with
  | ok changed => exact same changed rfl
  | error error => rfl

theorem accounts_reserveThread (registry : Registry) (parent child : ThreadId) :
    registry.events.Accounts (registry.reserveThread parent child).2.events := by
  unfold reserveThread
  split
  · exact .refl _
  · split
    · exact registry.events.accounts_post _
    · split <;> exact .refl _

theorem events_releaseThread (registry : Registry) {thread : ThreadId} {gone : Option MainExit}
    {left : Registry} (released : registry.releaseThread thread = .ok (gone, left)) :
    left.events = registry.events := by
  unfold releaseThread at released
  split at released
  · cases released
  · dsimp only at released
    split at released
    · cases released
      rfl
    · split at released <;> (cases released; rfl)

theorem accounts_unload (registry : Registry) (domain : DomainId) :
    registry.events.Accounts (registry.unload domain).events := by
  unfold unload
  split
  · have purged := registry.events.accounts_purge domain
    have added := (registry.events.purge domain).2.accounts_post ⟨.domainUnloaded, domain, none⟩
    unfold EventQueue.Accounts at *
    simp only [drop, EventQueue.add]
    omega
  · exact .refl _

theorem events_perform (registry : Registry) {operation : Operation}
    (quiet : operation.notifies = false) :
    (registry.perform operation).events = registry.events := by
  cases operation with
  | admitThread | admitBytes | reserveThread | unload => cases quiet
  | create domain thread manager =>
    refine registry.events_orElse fun changed made => ?_
    unfold create at made
    split at made
    · cases made
    · cases made
      rfl
  | acquireThread parent child =>
    refine registry.events_orElse fun changed made => ?_
    unfold acquireThread at made
    split at made
    · cases made
    · split at made
      · cases made
        rfl
      · cases made
  | releaseThread thread =>
    refine registry.events_orElse fun changed made => ?_
    cases released : registry.releaseThread thread with
    | error error => simp [released, Except.map] at made
    | ok outcome =>
      simp only [released, Except.map, Except.ok.injEq] at made
      exact made ▸ registry.events_releaseThread released
  | resetCounters domain =>
    refine registry.events_orElse fun changed made => ?_
    unfold resetCounters at made
    split at made
    · cases made
      rfl
    · cases made
  | release site =>
    simp only [perform, release]
    split <;> rfl
  | releasePartial site bytes =>
    simp only [perform, releasePartial]
    split <;> rfl
  | rudeUnload | charge => rfl

/-- An operation on the register queues no more than it accepts. -/
theorem accounts_perform (registry : Registry) (operation : Operation) :
    registry.events.Accounts (registry.perform operation).events := by
  cases operation with
  | admitThread parent =>
    simp only [perform, admitThread]
    split
    · exact registry.events.accounts_post _
    · exact .refl _
  | admitBytes thread bytes =>
    simp only [perform, admitBytes]
    split
    · exact registry.events.accounts_post _
    · exact .refl _
  | reserveThread parent child => exact registry.accounts_reserveThread parent child
  | unload domain => exact registry.accounts_unload domain
  | _ =>
    rw [events_perform _ rfl]
    exact .refl _

end Registry

end Steward.Domain
