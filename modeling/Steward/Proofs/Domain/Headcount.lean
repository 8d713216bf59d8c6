import Steward.Proofs.Domain.Counter

/-! Thread counters are exact. Whatever is done to the register, every thread is bound to a live
domain, and a live domain counts the threads that are bound to it. -/

set_option autoImplicit false

namespace Steward.Domain.Registry

/-- The threads that are bound to a domain. -/
def boundTo (registry : Registry) (domain : DomainId) : List ThreadId :=
  (registry.bindings.filter fun _ home => home = domain).keys

/-- What a thread with a home adds to the count of a domain. -/
def presence (domain home : DomainId) : Nat := if home = domain then 1 else 0

theorem length_boundTo (registry : Registry) (domain : DomainId) :
    (registry.boundTo domain).length = registry.bindings.total (presence domain) := by
  simp only [boundTo, Assoc.keys, Assoc.filter, Assoc.total, List.length_map]
  induction registry.bindings.entries with
  | nil => rfl
  | cons head rest ih =>
    by_cases same : head.2 = domain
    · simp [presence, same, ih, Nat.add_comm]
    · simp [presence, same, ih]

/-- The bindings and the thread counters agree. -/
structure Counted (registry : Registry) : Prop where
  live : ∀ thread domain, registry.bindings.get? thread = some domain →
    registry.domains.contains domain = true
  counted : ∀ domain count, registry.threads? domain = some count →
    count = registry.bindings.total (presence domain)

namespace Counted

variable {registry after : Registry}

theorem of_same (counted : Counted registry) (bindings : after.bindings = registry.bindings)
    (same : ∀ domain, after.threads? domain = registry.threads? domain) : Counted after := by
  constructor
  · intro thread domain bound
    rw [← isSome_threads?, same, isSome_threads?]
    exact counted.live thread domain (bindings ▸ bound)
  · intro domain count found
    rw [bindings]
    exact counted.counted domain count (same domain ▸ found)

theorem leave (counted : Counted registry) (thread : ThreadId) :
    Counted (registry.leave thread) := by
  constructor
  · intro other domain bound
    have before : registry.bindings.get? other = some domain := by
      have given : (registry.bindings.erase thread).get? other = some domain := bound
      rw [Assoc.get?_erase] at given
      split at given
      · cases given
      · exact given
    have live := counted.live other domain before
    rw [← isSome_threads?] at live ⊢
    rw [threads?_leave, Option.isSome_map]
    exact live
  · intro domain count found
    rw [threads?_leave] at found
    obtain ⟨old, present, rfl⟩ := Option.map_eq_some_iff.1 found
    have exact := counted.counted domain old present
    have parts := registry.bindings.total_erase_add thread (presence domain)
    change _ = (registry.bindings.erase thread).total (presence domain)
    cases bound : registry.bindings.get? thread with
    | none =>
      simp only [bound, Option.map_none, Option.getD_none, Nat.add_zero] at parts
      simp [exact, parts]
    | some home =>
      simp only [bound, Option.map_some, Option.getD_some, presence] at parts
      by_cases same : home = domain
      · simp only [same, if_true] at parts ⊢
        omega
      · simp only [same, if_false, Option.some.injEq] at parts ⊢
        omega

/-- A thread that leaves its domain is counted there, so that counting one less is exact. -/
theorem positive (counted : Counted registry) {thread : ThreadId} {domain : DomainId}
    (bound : registry.bindings.get? thread = some domain) :
    ∃ record, registry.domains.get? domain = some record ∧ 0 < record.threads := by
  obtain ⟨record, present⟩ := Option.isSome_iff_exists.1 (counted.live thread domain bound)
  have exact := counted.counted domain record.threads (by simp [threads?, present])
  have part := Assoc.le_total_of_get? (presence domain) bound
  simp only [presence, if_true] at part
  exact ⟨record, present, by omega⟩

/-- A thread comes into a domain that counts it on top of those who stay there. -/
theorem enter (counted : Counted registry) (thread : ThreadId) (domain : DomainId)
    (bindings : after.bindings = registry.bindings.insert thread domain)
    (home : after.threads? domain =
      some ((registry.bindings.erase thread).total (presence domain) + 1))
    (others : ∀ other, other ≠ domain →
      after.threads? other = (registry.leave thread).threads? other) : Counted after := by
  have left := counted.leave thread
  constructor
  · intro other place bound
    rw [← isSome_threads?]
    by_cases same : place = domain
    · simp [same, home]
    · rw [others place same, isSome_threads?]
      rw [bindings, Assoc.get?_insert] at bound
      split at bound
      · exact absurd (Option.some.inj bound).symm same
      · next apart =>
        exact left.live other place (by simpa [Registry.leave, apart] using bound)
  · intro place count found
    rw [bindings, Assoc.total_insert]
    by_cases same : place = domain
    · subst same
      rw [home] at found
      simp [presence, ← Option.some.inj found]
    · rw [others place same] at found
      have stayed : count = (registry.bindings.erase thread).total (presence place) :=
        left.counted place count found
      simp [stayed, presence, Ne.symm same]

theorem bind (counted : Counted registry) (thread : ThreadId) {domain : DomainId}
    (live : registry.domains.contains domain = true) : Counted (registry.bind domain thread) := by
  have stays : ((registry.leave thread).threads? domain).isSome = true := by
    rw [threads?_leave, Option.isSome_map, isSome_threads?]
    exact live
  obtain ⟨count, present⟩ := Option.isSome_iff_exists.1 stays
  have exact := (counted.leave thread).counted domain count present
  apply counted.enter thread domain rfl
  · rw [threads?_bind, present, Option.map_some, if_pos rfl, exact]
    rfl
  · intro other apart
    simp [threads?_bind, apart]

theorem found (counted : Counted registry) (thread : ThreadId) {domain : DomainId}
    (manager : String) (fresh : registry.domains.get? domain = none) :
    Counted (registry.found domain thread manager) := by
  have nobody : (registry.bindings.erase thread).total (presence domain) = 0 := by
    apply Assoc.total_eq_zero
    intro guest inside
    -- Whoever was bound to the domain would have made it live.
    by_cases same : guest.2 = domain
    · have bound := (List.mem_filter.1 inside).1
      have live := counted.live guest.1 domain (same ▸ Assoc.get?_of_mem bound)
      simp [Assoc.contains, fresh] at live
    · simp [presence, same]
  apply counted.enter thread domain rfl
  · rw [threads?_found, if_pos rfl, nobody]
  · intro other apart
    simp [threads?_found, apart]

theorem drop (counted : Counted registry) (domain : DomainId) : Counted (registry.drop domain) := by
  constructor
  · intro thread place bound
    have stays : registry.bindings.get? thread = some place ∧ place ≠ domain := by
      simpa [Registry.drop, Assoc.get?_filter] using bound
    rw [← isSome_threads?, threads?_drop, if_neg stays.2, isSome_threads?]
    exact counted.live thread place stays.1
  · intro place count present
    rw [threads?_drop] at present
    split at present
    · cases present
    · next apart =>
      rw [counted.counted place count present]
      symm
      apply Assoc.total_filter_of_dropped
      intro thread home dropped
      have gone : home = domain := by simpa using dropped
      simp [presence, gone, Ne.symm apart]

theorem releasePartial (counted : Counted registry) (site : Site) (bytes : Nat) :
    Counted (registry.releasePartial site bytes).2 := by
  refine counted.of_same ?_ fun domain => threads?_releasePartial _ _ _ domain
  unfold Registry.releasePartial
  split <;> rfl

/-- Every turn of the register keeps the bindings and the thread counters in agreement. -/
theorem turn {operation : Operation} (step : Turn registry operation after)
    (counted : Counted registry) : Counted after := by
  cases step with
  | aside _ events zombies => exact ⟨counted.live, counted.counted⟩
  | founded thread manager fresh => exact counted.found thread manager fresh
  | acquired child _ live => exact counted.bind child live
  | reserved child _ live => exact counted.bind child live
  | left _ _ => exact counted.leave _
  | ended _ _ _ => exact (counted.leave _).drop _
  | @unloaded domain _ events =>
    have dropped := counted.drop domain
    exact ⟨dropped.live, dropped.counted⟩
  | charged thread bytes site =>
    exact counted.of_same rfl fun domain => threads?_charge _ _ _ _ domain
  | released site =>
    rw [release_eq_releasePartial]
    exact counted.releasePartial site _
  | credited site bytes => exact counted.releasePartial site bytes
  | forgotten live => exact counted.of_same rfl fun domain => threads?_forget _ _ domain

theorem empty (limits : Limits) (events : EventQueue) :
    Counted { limits, events } := by
  constructor
  · intro thread domain bound
    cases bound
  · intro domain count found
    cases found

theorem run (limits : Limits) (events : EventQueue) (operations : List Operation) :
    Counted (Registry.run { limits, events } operations) :=
  run_induction (fun _ _ _ step counted => counted.turn step) _ (empty limits events) operations

end Counted

/-- In every state of a run from an empty register, threads are bound to live domains only, a live
domain counts exactly the threads that are bound to it, and no counter is at zero when a thread
leaves, so that counting one less never stops short. -/
theorem threads_eq_length_boundTo (limits : Limits) (events : EventQueue)
    (operations : List Operation) :
    let registry := Registry.run { limits, events } operations
    (∀ thread domain, registry.bindings.get? thread = some domain →
      registry.domains.contains domain = true) ∧
    (∀ domain record, registry.domains.get? domain = some record →
      record.threads = (registry.boundTo domain).length) ∧
    ∀ thread domain, registry.bindings.get? thread = some domain →
      ∃ record, registry.domains.get? domain = some record ∧ 0 < record.threads := by
  have counted := Counted.run limits events operations
  refine ⟨counted.live, ?_, fun _ _ => counted.positive⟩
  intro domain record present
  rw [length_boundTo]
  exact counted.counted domain record.threads (by simp [threads?, present])

end Steward.Domain.Registry
