import Steward.Proofs.Domain.Counter

/-! Domains within a thread cap. Threads come into a domain with its creation, when they are
reserved, or by force; who is reserved finds room for one more, so that only force takes a domain
past the cap. Notices and bytes are beside the point. -/

set_option autoImplicit false

namespace Steward.Domain

/-- A thread joins a domain whatever the cap. -/
def Operation.forces : Operation → Bool
  | acquireThread _ _ => true
  | _ => false

namespace Registry

variable {registry after : Registry} {cap : Nat}

theorem fullDomain?_eq_some_iff {thread : ThreadId} {domain : DomainId} :
    registry.fullDomain? thread = some domain ↔ registry.bindings.get? thread = some domain ∧
      registry.limits.maxThreads ≠ 0 ∧
      ∃ count, registry.threads? domain = some count ∧ registry.limits.maxThreads ≤ count := by
  unfold fullDomain? threads?
  cases registry.bindings.get? thread with
  | none => simp
  | some home =>
    cases found : registry.domains.get? home with
    | none =>
      by_cases same : home = domain
      · simp [← same, found]
      · simp [same, found]
    | some record =>
      by_cases same : home = domain
      · simp [← same, found]
      · simp [same, found]

/-- The same threads are bound to the same domains, under the same caps. -/
structure SameMembers (registry after : Registry) : Prop where
  limits : after.limits = registry.limits
  bindings : after.bindings = registry.bindings
  threads : ∀ domain, after.threads? domain = registry.threads? domain

namespace SameMembers

theorem noticed (registry : Registry) (events : EventQueue) :
    SameMembers registry { registry with events } := ⟨rfl, rfl, fun _ => rfl⟩

theorem refl (registry : Registry) : SameMembers registry registry :=
  noticed registry registry.events

theorem trans {middle : Registry} (first : SameMembers registry middle)
    (second : SameMembers middle after) : SameMembers registry after :=
  ⟨second.limits.trans first.limits, second.bindings.trans first.bindings,
    fun domain => (second.threads domain).trans (first.threads domain)⟩

theorem charge (registry : Registry) (thread : ThreadId) (bytes : Nat) (site : Site) :
    SameMembers registry (registry.charge thread bytes site) :=
  ⟨rfl, rfl, threads?_charge registry thread bytes site⟩

theorem releasePartial (registry : Registry) (site : Site) (bytes : Nat) :
    SameMembers registry (registry.releasePartial site bytes).2 := by
  refine ⟨?_, ?_, threads?_releasePartial registry site bytes⟩
  · unfold Registry.releasePartial
    split <;> rfl
  · unfold Registry.releasePartial
    split <;> rfl

theorem release (registry : Registry) (site : Site) :
    SameMembers registry (registry.release site).2 := by
  rw [release_eq_releasePartial]
  exact releasePartial registry site _

end SameMembers

/-- No live domain counts more threads than a cap. -/
def Uncrowded (registry : Registry) (cap : Nat) : Prop :=
  ∀ domain count, registry.threads? domain = some count → count ≤ cap

namespace Uncrowded

theorem leave (uncrowded : registry.Uncrowded cap) (thread : ThreadId) :
    (registry.leave thread).Uncrowded cap := by
  intro domain count now
  rw [threads?_leave] at now
  obtain ⟨before, present, rfl⟩ := Option.map_eq_some_iff.1 now
  have within := uncrowded domain before present
  split <;> omega

theorem drop (uncrowded : registry.Uncrowded cap) (domain : DomainId) :
    (registry.drop domain).Uncrowded cap := by
  intro other count now
  rw [threads?_drop] at now
  split at now
  · cases now
  · exact uncrowded other count now

theorem found (uncrowded : registry.Uncrowded cap) (positive : 1 ≤ cap) (domain : DomainId)
    (thread : ThreadId) (manager : String) :
    (registry.found domain thread manager).Uncrowded cap := by
  intro other count now
  rw [threads?_found] at now
  split at now
  · cases now
    exact positive
  · exact uncrowded.leave thread other count now

/-- A thread that moves within its domain leaves the place that it comes into. -/
theorem bind (uncrowded : registry.Uncrowded cap) {domain : DomainId} (thread : ThreadId)
    (room : ∀ count, registry.threads? domain = some count → count < cap) :
    (registry.bind domain thread).Uncrowded cap := by
  intro other count now
  rw [threads?_bind, threads?_leave, Option.map_map] at now
  obtain ⟨before, present, rfl⟩ := Option.map_eq_some_iff.1 now
  have within := uncrowded other before present
  simp only [Function.comp_apply]
  by_cases same : other = domain
  · have less := room before (same ▸ present)
    rw [if_pos same]
    split <;> omega
  · rw [if_neg same]
    split <;> omega

theorem of_same (uncrowded : registry.Uncrowded cap) (same : SameMembers registry after) :
    after.Uncrowded cap := by
  intro domain count now
  exact uncrowded domain count (same.threads domain ▸ now)

theorem reserveThread (uncrowded : registry.Uncrowded cap)
    (capped : registry.limits.maxThreads = cap) (positive : 1 ≤ cap) (parent child : ThreadId) :
    (registry.reserveThread parent child).2.Uncrowded cap := by
  unfold Registry.reserveThread
  split
  · exact uncrowded
  · next domain bound =>
    split
    · exact uncrowded
    · next admitted =>
      split
      · -- The parent's domain, where the child goes, is the one that was looked at.
        refine uncrowded.bind child fun count present => Nat.lt_of_not_le fun full => ?_
        have denied : registry.fullDomain? parent = some domain :=
          fullDomain?_eq_some_iff.2 ⟨bound, by omega, count, present, capped ▸ full⟩
        simp [admitted] at denied
      · exact uncrowded

/-- No operation but one by force takes a domain past the cap. -/
theorem perform (uncrowded : registry.Uncrowded cap) (capped : registry.limits.maxThreads = cap)
    (positive : 1 ≤ cap) {operation : Operation} (asked : operation.forces = false) :
    (registry.perform operation).Uncrowded cap := by
  have step := registry.turn_perform operation
  generalize made : registry.perform operation = after at step
  cases step with
  | aside _ _ _ => exact uncrowded
  | founded thread manager _ => exact uncrowded.found positive _ thread manager
  | acquired _ _ _ => cases asked
  | @reserved _ parent child _ _ =>
    rw [← made]
    exact uncrowded.reserveThread capped positive parent child
  | left _ _ => exact uncrowded.leave _
  | ended _ _ _ => exact (uncrowded.leave _).drop _
  | unloaded _ _ => exact uncrowded.drop _
  | charged thread bytes site => exact uncrowded.of_same (.charge registry thread bytes site)
  | released site => exact uncrowded.of_same (.release registry site)
  | credited site bytes => exact uncrowded.of_same (.releasePartial registry site bytes)
  | forgotten _ => exact uncrowded.of_same ⟨rfl, rfl, threads?_forget _ _⟩

end Uncrowded

theorem reserveThread_of_full {parent : ThreadId} {domain : DomainId}
    (full : registry.fullDomain? parent = some domain) (child : ThreadId) :
    registry.reserveThread parent child =
      (.error (.threadLimit domain registry.limits.maxThreads),
        registry.post ⟨.outOfTasks, domain, some parent⟩) := by
  have bound := (fullDomain?_eq_some_iff.1 full).1
  simp only [reserveThread, bound, full, denyThread]

theorem full_of_reserveThread {parent child : ThreadId} {domain : DomainId} {limit : Nat}
    (denied : (registry.reserveThread parent child).1 = .error (.threadLimit domain limit)) :
    registry.fullDomain? parent = some domain ∧ limit = registry.limits.maxThreads := by
  unfold reserveThread at denied
  split at denied
  · cases denied
  · split at denied
    · next full =>
      cases denied
      exact ⟨full, rfl⟩
    · split at denied
      · cases denied
      · cases denied

/-- A request is denied exactly when the parent's domain has as many threads as it may have. -/
theorem reserveThread_eq_threadLimit_iff (uncrowded : registry.Uncrowded cap)
    (capped : registry.limits.maxThreads = cap) (positive : 1 ≤ cap) {parent child : ThreadId}
    {domain : DomainId} {limit : Nat} :
    (registry.reserveThread parent child).1 = .error (.threadLimit domain limit) ↔
      limit = cap ∧ registry.bindings.get? parent = some domain ∧
        registry.threads? domain = some cap := by
  constructor
  · intro denied
    obtain ⟨full, rfl⟩ := full_of_reserveThread denied
    obtain ⟨bound, _, count, present, least⟩ := fullDomain?_eq_some_iff.1 full
    have within := uncrowded domain count present
    have exact : count = cap := by omega
    exact ⟨capped, bound, exact ▸ present⟩
  · rintro ⟨rfl, bound, present⟩
    have full : registry.fullDomain? parent = some domain :=
      fullDomain?_eq_some_iff.2 ⟨bound, by omega, _, present, Nat.le_of_eq capped⟩
    rw [reserveThread_of_full full, capped]

/-- What a denied request does: it leaves a notice for the parent's domain, unless there is one. -/
theorem reserveThread_of_threadLimit {parent child : ThreadId} {domain : DomainId} {limit : Nat}
    (denied : (registry.reserveThread parent child).1 = .error (.threadLimit domain limit)) :
    (registry.reserveThread parent child).2 =
      registry.post ⟨.outOfTasks, domain, some parent⟩ := by
  rw [reserveThread_of_full (full_of_reserveThread denied).1]

end Registry

end Steward.Domain
