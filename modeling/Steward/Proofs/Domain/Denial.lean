import Steward.Proofs.Domain.Backlog
import Steward.Proofs.Domain.Belonging
import Steward.Proofs.Domain.Delivery
import Steward.Proofs.Domain.Quota

/-! Notices of denials. Only a live domain is denied something; its unload drops the notices about
it that nobody took, and the release of its main thread leaves them in the queue. -/

set_option autoImplicit false

namespace Steward.Domain

/-- The notice says that a domain was denied threads or bytes. -/
def Event.isDenial (event : Event) : Bool :=
  match event.kind with
  | .outOfTasks | .outOfMemory => true
  | .domainUnloaded | .unloadRequested => false

namespace EventQueue

variable {queue : EventQueue} {event other : Event}

/-- Nothing in the queue says the same. -/
def Lacks (queue : EventQueue) (event : Event) : Prop :=
  ∀ queued ∈ queue.pending, event.same queued = false

theorem mem_post :
    other ∈ (queue.post event).2.pending ↔
      other ∈ queue.pending ∨ other = event ∧ queue.Lacks event := by
  rw [pending_post]
  split
  · next accepted =>
    have lacks : queue.Lacks event := (post_eq_true_iff queue event).1 accepted
    simp [lacks]
  · next refused =>
    have present : ¬queue.Lacks event := fun lacks =>
      refused ((post_eq_true_iff queue event).2 lacks)
    simp [present]

theorem mem_purge {domain : DomainId} :
    other ∈ (queue.purge domain).2.pending ↔ other ∈ queue.pending ∧ other.domain ≠ domain := by
  simp [pending_purge]

end EventQueue

namespace Registry

variable {registry : Registry} {operation : Operation} {event : Event} {domain : DomainId}

/-- A notice is in the queue already, or it is of a live domain and the first one to say so. -/
def Denies (before after : Registry) (event : Event) : Prop :=
  event ∈ before.events.pending ∨ before.events.Lacks event ∧
    before.domains.contains event.domain = true ∧ after.domains.contains event.domain = true

theorem denies_post {denied : Event} (live : registry.domains.contains denied.domain = true)
    (queued : event ∈ (registry.post denied).events.pending) :
    registry.Denies (registry.post denied) event := by
  obtain old | ⟨rfl, lacks⟩ := EventQueue.mem_post.1 queued
  · exact .inl old
  · exact .inr ⟨lacks, live, live⟩

theorem live_of_fullDomain? {thread : ThreadId} (full : registry.fullDomain? thread = some domain) :
    registry.domains.contains domain = true := by
  obtain ⟨_, _, count, present, _⟩ := fullDomain?_eq_some_iff.1 full
  rw [← isSome_threads?, present]
  rfl

/-- Bytes are denied to the domain of the thread that asks, while that domain is live. -/
theorem of_overBudget? {thread : ThreadId} {bytes : Nat}
    (past : registry.overBudget? thread bytes = some domain) :
    registry.bindings.get? thread = some domain ∧ registry.domains.contains domain = true := by
  simp only [overBudget?, Option.bind_eq_bind, Option.bind_eq_some_iff] at past
  obtain ⟨home, bound, record, present, ended⟩ := past
  split at ended
  · cases ended
    exact ⟨bound, by simp [Assoc.contains, present]⟩
  · cases ended

theorem mem_unload (queued : event ∈ (registry.unload domain).events.pending)
    (denial : event.isDenial = true) :
    event ∈ registry.events.pending ∧
      (registry.domains.contains domain = true → event.domain ≠ domain) := by
  unfold unload at queued
  split at queued
  · obtain old | ⟨rfl, _⟩ := EventQueue.mem_post.1 queued
    · obtain ⟨inside, apart⟩ := EventQueue.mem_purge.1 old
      exact ⟨inside, fun _ => apart⟩
    · cases denial
  · next gone => exact ⟨queued, fun live => absurd live gone⟩

/-- A notice of a denial is new only where a live domain was denied something. -/
theorem denies_perform (queued : event ∈ (registry.perform operation).events.pending)
    (denial : event.isDenial = true) : registry.Denies (registry.perform operation) event := by
  cases operation with
  | admitThread parent =>
    simp only [perform, admitThread] at queued ⊢
    split at queued
    · next full =>
      simp only
      exact denies_post (live_of_fullDomain? full) queued
    · exact .inl queued
  | admitBytes thread bytes =>
    simp only [perform, admitBytes] at queued ⊢
    split at queued
    · next past =>
      simp only
      exact denies_post (of_overBudget? past).2 queued
    · exact .inl queued
  | reserveThread parent child =>
    simp only [perform] at queued ⊢
    cases full : registry.fullDomain? parent with
    | some home =>
      rw [reserveThread_of_full full] at queued ⊢
      exact denies_post (live_of_fullDomain? full) queued
    | none =>
      have same : (registry.reserveThread parent child).2.events = registry.events := by
        simp only [reserveThread, full]
        split
        · rfl
        · split <;> rfl
      exact .inl (same ▸ queued)
  | unload domain => exact .inl (mem_unload queued denial).1
  | _ =>
    rw [events_perform _ rfl] at queued
    exact .inl queued

/-- A domain ends and its notices of denials go, or its main thread is released and they stay. -/
theorem ends_perform (live : registry.domains.contains domain = true)
    (gone : (registry.perform operation).domains.contains domain = false) :
    (∀ event ∈ (registry.perform operation).events.pending, event.isDenial = true →
        event.domain ≠ domain) ∨
      ∃ main, operation = .releaseThread main ∧ registry.main? domain = some main ∧
        registry.bindings.get? main = some domain ∧
        (registry.perform operation).events = registry.events := by
  obtain rfl | ⟨main, rfl, led, bound⟩ := (registry.turn_perform operation).ends live gone
  · exact .inl fun event queued denial => (mem_unload queued denial).2 live
  · exact .inr ⟨main, rfl, led, bound, events_perform _ rfl⟩

theorem gone_of_releaseThread {main : ThreadId} (led : registry.main? domain = some main)
    (bound : registry.bindings.get? main = some domain) :
    (registry.perform (.releaseThread main)).domains.contains domain = false := by
  obtain ⟨exit, after, released⟩ := exists_releaseThread_of_bound bound
  have performed : registry.perform (.releaseThread main) = after := by
    simp [perform, released, orElse, Except.map]
  have turn := registry.turn_perform (.releaseThread main)
  rw [performed] at turn ⊢
  rw [Assoc.contains, Option.isSome_eq_false_iff, Option.isNone_iff_eq_none,
    ← Option.map_eq_none_iff (f := Record.mainThread), Option.eq_none_iff_forall_ne_some]
  intro heir now
  obtain before | ⟨_, manager, creates⟩ := turn.main? now
  · -- The domain's main thread is the one that was released.
    cases Option.some.inj (led.symm.trans before)
    exact (((main?_releaseThread released).2 domain).1 now).2 bound
  · cases creates

end Registry

end Steward.Domain
