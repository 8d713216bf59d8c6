import Steward.Proofs.Domain.Quota
import Steward.Proofs.Host.Register

/-! Two ways to let a thread in. Whoever asks whether a thread may create another and then binds the
new one comes to the same, down to the notice of a denial, as whoever reserves a place for it. -/

set_option autoImplicit false

namespace Steward.Domain.Registry

variable {registry : Registry} {parent child : ThreadId} {domain : DomainId}

/-- Ask whether a thread may create another, and bind that one if so. -/
def admitAndAcquire (registry : Registry) (parent child : ThreadId) :
    Except Error Unit × Registry :=
  match registry.admitThread parent with
  | (.error denial, denied) => (.error denial, denied)
  | (.ok (), admitted) =>
      match admitted.acquireThread parent child with
      | .ok joined => (.ok (), joined)
      | .error fault => (.error fault, admitted)

/-- The domain is looked at once by who reserves and twice by who asks first. In between nothing
changes. -/
theorem admitAndAcquire_eq (bound : registry.bindings.get? parent = some domain)
    (child : ThreadId) :
    registry.admitAndAcquire parent child =
      ((registry.reserveThread parent child).1.map fun _ => (),
        (registry.reserveThread parent child).2) := by
  cases full : registry.fullDomain? parent with
  | some past =>
    rw [reserveThread_of_full full]
    simp only [admitAndAcquire, admitThread, full, denyThread]
    rfl
  | none =>
    simp only [admitAndAcquire, admitThread, full, acquireThread, bound, reserveThread]
    cases registry.domains.contains domain <;> rfl

theorem admitThread_of_unbound (unbound : registry.bindings.get? parent = none) :
    registry.admitThread parent = (.ok (), registry) := by
  have admitted : registry.fullDomain? parent = none := by
    rw [fullDomain?, unbound]
    rfl
  simp only [admitThread, admitted]

/-- A domain is full when as many threads are bound to it as may be. -/
theorem Counted.fullDomain?_eq (counted : registry.Counted)
    (bound : registry.bindings.get? parent = some domain) :
    registry.fullDomain? parent =
      if registry.limits.maxThreads ≠ 0 ∧
        registry.limits.maxThreads ≤ (registry.boundTo domain).length then some domain
      else none := by
  obtain ⟨record, found, _⟩ := counted.positive bound
  have count : registry.threads? domain = some record.threads := by simp [threads?, found]
  simp only [fullDomain?, bound, found, Option.bind_eq_bind, Option.bind_some]
  rw [length_boundTo, ← counted.counted domain record.threads count]

/-- A place is denied where the domain is full, and taken otherwise. -/
theorem Counted.reserveThread (counted : registry.Counted)
    (bound : registry.bindings.get? parent = some domain) (child : ThreadId) :
    registry.reserveThread parent child =
      if registry.limits.maxThreads ≠ 0 ∧
        registry.limits.maxThreads ≤ (registry.boundTo domain).length then
        (.error (.threadLimit domain registry.limits.maxThreads),
          registry.post ⟨.outOfTasks, domain, some parent⟩)
      else (.ok (some domain), registry.bind domain child) := by
  have live := counted.live parent domain bound
  have full := counted.fullDomain?_eq bound
  split at full
  · next past => rw [if_pos past, reserveThread_of_full full]
  · next room => simp only [Registry.reserveThread, bound, full, live, if_true, if_neg room]

theorem Counted.admitThread (counted : registry.Counted)
    (bound : registry.bindings.get? parent = some domain) :
    registry.admitThread parent =
      if registry.limits.maxThreads ≠ 0 ∧
        registry.limits.maxThreads ≤ (registry.boundTo domain).length then
        (.error (.threadLimit domain registry.limits.maxThreads),
          registry.post ⟨.outOfTasks, domain, some parent⟩)
      else (.ok (), registry) := by
  have full := counted.fullDomain?_eq bound
  split at full
  · next past =>
    rw [if_pos past]
    simp only [Registry.admitThread, full]
    rfl
  · next room => simp only [Registry.admitThread, full, if_neg room]

theorem Counted.acquireThread (counted : registry.Counted)
    (bound : registry.bindings.get? parent = some domain) (child : ThreadId) :
    registry.acquireThread parent child = .ok (registry.bind domain child) := by
  simp only [Registry.acquireThread, bound, counted.live parent domain bound, if_true]

end Steward.Domain.Registry

namespace Steward.Host

open Domain

/-- On a host that did whatever it did, to ask whether a thread may create another and then to bind
the new one has the same outcome, register and notices as to reserve a place for it, and wakes the
same readers. A place is denied exactly where there is a cap and as many threads are bound to the
parent's domain. A parent in no domain is let through, and nothing changes. -/
theorem reserveThread_eq_admitAndAcquire {config : Config}
    {opened : String → Except Error Trace.Sink} {start : Host}
    (created : create config opened = .ok start) (doings : List Doing) (count : Nat)
    (parent child : ThreadId) :
    let host := start.undergone doings count
    let registry := host.registry
    let asked := host.heed (.onDomains (.admitThread parent))
    (∀ domain, registry.bindings.get? parent = some domain →
      let full := config.limits.maxThreads ≠ 0 ∧
        config.limits.maxThreads ≤ (registry.boundTo domain).length
      registry.admitAndAcquire parent child =
        ((registry.reserveThread parent child).1.map fun _ => (),
          (registry.reserveThread parent child).2) ∧
      registry.reserveThread parent child =
        (if full then
          (.error (.threadLimit domain config.limits.maxThreads),
            registry.post ⟨.outOfTasks, domain, some parent⟩)
        else (.ok (some domain), registry.bind domain child)) ∧
      host.heed (.onDomains (.reserveThread parent child)) =
        if full then asked else asked.heed (.onDomains (.acquireThread parent child))) ∧
    (registry.bindings.get? parent = none →
      registry.admitThread parent = (.ok (), registry) ∧
        registry.reserveThread parent child = (.ok none, registry)) := by
  intro host registry asked
  have counted : registry.Counted := counted_undergone created doings count
  have limits : registry.limits = config.limits := limits_undergone created doings count
  constructor
  · intro domain bound full
    have reserved := counted.reserveThread bound child
    have admitted := counted.admitThread bound
    rw [limits] at reserved admitted
    refine ⟨Registry.admitAndAcquire_eq bound child, reserved, ?_⟩
    show host.adopt (registry.reserveThread parent child).2 = _
    have asks : asked = host.adopt (registry.admitThread parent).2 := rfl
    by_cases past : full
    · rw [if_pos past] at reserved admitted ⊢
      rw [asks, reserved, admitted]
    · rw [if_neg past] at reserved admitted ⊢
      have rests : asked = host := by rw [asks, admitted, adopt_same]
      rw [reserved, rests]
      show _ = host.adopt (registry.orElse (registry.acquireThread parent child))
      rw [counted.acquireThread bound]
      rfl
  · intro unbound
    refine ⟨Registry.admitThread_of_unbound unbound, ?_⟩
    simp only [Registry.reserveThread, unbound]

/-- A full domain of two, whose main thread asks for a place for its other thread. -/
def crowdedHouse : List Doing :=
  [.call .spawn, .call .spawn, .call .spawn, .act (.onDomains (.create ⟨1⟩ ⟨1⟩ "first")),
    .call (.onDomains (.acquireThread ⟨1⟩ ⟨2⟩))]

theorem reserveThread_eq_admitAndAcquire_crowdedHouse :
    ∃ start, create { limits := ⟨2, 0⟩ } (fun _ => .ok (.memory 0 [])) = .ok start ∧
      let registry := (start.undergone crowdedHouse 5).registry
      registry.admitAndAcquire ⟨1⟩ ⟨2⟩ =
        (.error (.threadLimit ⟨1⟩ 2), registry.post ⟨.outOfTasks, ⟨1⟩, some ⟨1⟩⟩) ∧
      registry.reserveThread ⟨1⟩ ⟨2⟩ =
        (.error (.threadLimit ⟨1⟩ 2), registry.post ⟨.outOfTasks, ⟨1⟩, some ⟨1⟩⟩) ∧
      registry.admitThread ⟨3⟩ = (.ok (), registry) ∧
      registry.reserveThread ⟨3⟩ ⟨1⟩ = (.ok none, registry) := by
  refine ⟨_, rfl, ?_⟩
  have agree := @reserveThread_eq_admitAndAcquire { limits := ⟨2, 0⟩ }
    (fun _ => .ok (.memory 0 [])) _ rfl crowdedHouse 5
  obtain ⟨same, reserved, _⟩ := (agree ⟨1⟩ ⟨2⟩).1 ⟨1⟩ (by decide)
  have denied := reserved.trans (if_pos (by decide))
  exact ⟨same.trans (by rw [denied]; rfl), denied, (agree ⟨3⟩ ⟨1⟩).2 (by decide)⟩

end Steward.Host
