import Steward.Proofs.Domain.Cap
import Steward.Proofs.Domain.Delivery
import Steward.Proofs.Host.Call

/-! Threads of a host under the thread cap. Whatever is called in whatever order, no domain goes
past its cap unless a thread is put there by force, and a request that is turned down for the cap
leaves nothing but a notice. -/

set_option autoImplicit false

namespace Steward.Host

open Domain

/-- A request for a thread was turned down: at most the domain has a notice more. -/
structure TurnedDown (host after : Host) (domain : DomainId) (parent : ThreadId) : Prop where
  registry : after.registry = { host.registry with events := after.registry.events }
  pending : after.registry.events.pending = host.registry.events.pending ∨
    after.registry.events.pending =
      host.registry.events.pending ++ [⟨.outOfTasks, domain, some parent⟩]
  tasks : after.tasks = host.tasks

theorem wakeSome_tasks (target : Target) (count : Nat) (host : Host) :
    (wakeSome target count host).tasks = host.tasks := by
  induction count generalizing host with
  | zero => rfl
  | succ count ih =>
    have once : (host.wakeOne target).tasks = host.tasks := by
      unfold wakeOne
      split <;> rfl
    exact (ih _).trans once

@[simp] theorem adopt_tasks (host : Host) (registry : Registry) :
    (host.adopt registry).tasks = host.tasks := wakeSome_tasks _ _ _

variable {host : Host} {parent child : ThreadId} {domain : DomainId} {limit : Nat}

theorem TurnedDown.of_adopt {after : Host}
    (registry : after.registry = host.registry.post ⟨.outOfTasks, domain, some parent⟩)
    (tasks : after.tasks = host.tasks) : TurnedDown host after domain parent where
  registry := by
    rw [registry]
    rfl
  pending := by
    rw [registry]
    simp only [Registry.post, EventQueue.add, EventQueue.pending_post]
    split
    · exact .inr rfl
    · exact .inl rfl
  tasks := tasks

theorem turnedDown_of_reserveThread
    (denied : (host.registry.reserveThread parent child).1 = .error (.threadLimit domain limit)) :
    TurnedDown host (host.heed (.onDomains (.reserveThread parent child))) domain parent := by
  refine .of_adopt ?_ (adopt_tasks _ _)
  rw [← Registry.reserveThread_of_threadLimit denied]
  exact adopt_registry _ _

theorem createTask_eq_threadLimit_iff :
    (host.createTask parent).1 = .error (.threadLimit domain limit) ↔
      (host.registry.reserveThread parent ⟨host.nextThread⟩).1 =
        .error (.threadLimit domain limit) := by
  unfold createTask
  simp only [addThread]
  split
  · next error _ refused => simp [refused]
  · next granted => simp [granted]

theorem createTask_of_threadLimit
    (denied : (host.createTask parent).1 = .error (.threadLimit domain limit)) :
    (host.createTask parent).2 = (host.addThread .suspended).2.adopt
      (host.registry.reserveThread parent ⟨host.nextThread⟩).2 := by
  rw [createTask_eq_threadLimit_iff] at denied
  unfold createTask
  simp only [addThread]
  split
  · next refused => rw [refused]
  · next granted =>
    rw [granted] at denied
    cases denied

theorem turnedDown_of_createTask
    (denied : (host.createTask parent).1 = .error (.threadLimit domain limit)) :
    TurnedDown host (host.heed (.createTask parent)) domain parent := by
  simp only [heed, createTask_of_threadLimit denied]
  refine .of_adopt ?_ (adopt_tasks _ _)
  rw [← Registry.reserveThread_of_threadLimit (createTask_eq_threadLimit_iff.1 denied)]
  exact adopt_registry _ _

theorem uncrowded_heedAll {config : Config} {opened : String → Except Error Trace.Sink}
    {start : Host} (created : create config opened = .ok start)
    (capped : 1 ≤ config.limits.maxThreads) {calls : List Call}
    (asked : ∀ call ∈ calls, call.forces = false) :
    (start.heedAll calls).registry.limits.maxThreads = config.limits.maxThreads ∧
      (start.heedAll calls).registry.Uncrowded config.limits.maxThreads := by
  refine @heedAll_induction (fun host => host.registry.limits.maxThreads =
    config.limits.maxThreads ∧ host.registry.Uncrowded config.limits.maxThreads) start calls
    ?_ fun host call inside ⟨limits, uncrowded⟩ => ?_
  · rw [(books_of_create created).1]
    exact ⟨rfl, fun _ _ => nofun⟩
  · cases host.bearing_heed call with
    | aside same => exact ⟨same.limits ▸ limits, uncrowded.of_same same⟩
    | asked operation free same =>
      have unforced : operation.forces = false := by
        rw [Bool.eq_false_iff]
        exact fun forced => absurd (free forced) (by simp [asked call inside])
      have kept := Registry.limits_turn (host.registry.turn_perform operation)
      exact ⟨(same.limits.trans kept) ▸ limits,
        (uncrowded.perform limits capped unforced).of_same same⟩

/-- No live domain has more threads than it may, unless some were put there by force. A request for
one more is turned down exactly when the parent's domain is full, and then everybody stays where he
was, no task is made, and at most there is a notice that the domain is out of tasks. -/
theorem threads_le_cap {config : Config} {opened : String → Except Error Trace.Sink} {start : Host}
    (created : create config opened = .ok start) (capped : 1 ≤ config.limits.maxThreads)
    {calls : List Call} (asked : ∀ call ∈ calls, call.forces = false) :
    let host := start.heedAll calls
    (∀ domain count, host.registry.threads? domain = some count →
      count ≤ config.limits.maxThreads) ∧
    ∀ parent domain limit,
      let full := limit = config.limits.maxThreads ∧
        host.registry.bindings.get? parent = some domain ∧
        host.registry.threads? domain = some config.limits.maxThreads
      (∀ child,
        ((host.registry.reserveThread parent child).1 = .error (.threadLimit domain limit) ↔ full) ∧
        (full →
          TurnedDown host (host.heed (.onDomains (.reserveThread parent child))) domain parent)) ∧
      ((host.createTask parent).1 = .error (.threadLimit domain limit) ↔ full) ∧
      (full → TurnedDown host (host.heed (.createTask parent)) domain parent) := by
  intro host
  obtain ⟨limits, uncrowded⟩ := uncrowded_heedAll created capped asked
  refine ⟨uncrowded, ?_⟩
  intro parent domain limit full
  have denied : ∀ child, (host.registry.reserveThread parent child).1 =
      .error (.threadLimit domain limit) ↔ full := fun child =>
    Registry.reserveThread_eq_threadLimit_iff uncrowded limits capped
  have refused : (host.createTask parent).1 = .error (.threadLimit domain limit) ↔ full :=
    createTask_eq_threadLimit_iff.trans (denied _)
  exact ⟨fun child =>
      ⟨denied child, fun past => turnedDown_of_reserveThread ((denied child).2 past)⟩,
    refused, fun past => turnedDown_of_createTask (refused.2 past)⟩

/-- One thread is let into a domain for two, and the next one is not. -/
def fullHouse : List Call :=
  [.spawn, .onDomains (.create ⟨1⟩ ⟨1⟩ "first"), .createTask ⟨1⟩, .createTask ⟨1⟩]

theorem threads_le_cap_fullHouse :
    ∃ start, create { limits := ⟨2, 0⟩ } (fun _ => .ok (.memory 0 [])) = .ok start ∧
      ((start.heedAll fullHouse).createTask ⟨1⟩).1 = .error (.threadLimit ⟨1⟩ 2) ∧
      (start.heedAll fullHouse).registry.threads? ⟨1⟩ = some 2 ∧
      TurnedDown (start.heedAll fullHouse) ((start.heedAll fullHouse).heed (.createTask ⟨1⟩)) ⟨1⟩
        ⟨1⟩ := by
  refine ⟨_, rfl, by decide, by decide, ?_⟩
  have within := @threads_le_cap { limits := ⟨2, 0⟩ } (fun _ => .ok (.memory 0 [])) _ rfl
    (by decide) fullHouse (by decide)
  exact (within.2 ⟨1⟩ ⟨1⟩ 2).2.2 ⟨rfl, by decide, by decide⟩

end Steward.Host
