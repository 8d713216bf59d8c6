import Steward.Proofs.Domain.Headcount

/-! How a thread leaves its domain for good. It is counted out where it was counted in, and stays
outside until somebody brings it into a domain again. -/

set_option autoImplicit false

namespace Steward.Domain

variable {registry after : Registry} {operation : Operation} {thread : ThreadId}

/-- An operation that can bring a thread into a domain. -/
def Operation.binds (thread : ThreadId) : Operation → Bool
  | .create _ main _ => decide (main = thread)
  | .acquireThread _ child | .reserveThread _ child => decide (child = thread)
  | _ => false

namespace Registry

theorem bindings_releasePartial (registry : Registry) (site : Site) (bytes : Nat) :
    (registry.releasePartial site bytes).2.bindings = registry.bindings := by
  unfold releasePartial
  split <;> rfl

/-- A thread that is in no domain gets into one only when it is brought there. -/
theorem Turn.unbound (turn : Turn registry operation after)
    (calm : operation.binds thread = false) (absent : registry.bindings.get? thread = none) :
    after.bindings.get? thread = none := by
  have inserted : ∀ other (domain : DomainId), (decide (other = thread)) = false →
      (registry.bindings.insert other domain).get? thread = none := by
    intro other domain apart
    have apart : thread ≠ other := fun same => by simp [same] at apart
    rw [Assoc.get?_insert_of_ne _ apart, absent]
  have erased : ∀ other, (registry.bindings.erase other).get? thread = none := fun other => by
    simp [Assoc.get?_erase, absent]
  cases turn with
  | aside | charged | forgotten => exact absent
  | founded | acquired | reserved => exact inserted _ _ calm
  | left => exact erased _
  | ended => simp [Registry.drop, Registry.leave, Assoc.get?_filter, erased]
  | unloaded => simp [Registry.drop, Assoc.get?_filter, absent]
  | released =>
    rw [release_eq_releasePartial, bindings_releasePartial]
    exact absent
  | credited =>
    rw [bindings_releasePartial]
    exact absent

theorem get?_releaseThread (registry : Registry) (thread : ThreadId) :
    (registry.perform (.releaseThread thread)).bindings.get? thread = none := by
  have gone : ∀ domain, (((registry.bindings.erase thread).filter fun _ bound =>
      decide (bound ≠ domain)).get? thread) = none := fun domain => by simp [Assoc.get?_filter]
  unfold perform
  cases bound : registry.bindings.get? thread with
  | none => simp [releaseThread, bound, orElse, Except.map]
  | some domain =>
    simp only [releaseThread, bound]
    split
    · exact Assoc.get?_erase_self ..
    · split
      · exact gone domain
      · exact Assoc.get?_erase_self ..

/-- A thread that is in a domain is counted there, so that it can be counted out. -/
theorem Counted.releaseThread {domain : DomainId} (counted : registry.Counted)
    (bound : registry.bindings.get? thread = some domain) :
    ∃ record, registry.domains.get? domain = some record ∧ 0 < record.threads ∧
      (registry.leave thread).domains.get? domain =
        some { record with threads := record.threads - 1 } ∧
      registry.releaseThread thread =
        if record.mainThread = thread then
          .ok (some ⟨record.manager, domain, decide (record.threads - 1 = 0)⟩,
            (registry.leave thread).drop domain)
        else .ok (none, registry.leave thread) := by
  obtain ⟨record, found, positive⟩ := counted.positive bound
  have left : (registry.uncount thread).get? domain =
      some { record with threads := record.threads - 1 } := by
    rw [get?_uncount, found, bound, Option.map_some, if_pos rfl]
  refine ⟨record, found, positive, left, ?_⟩
  simp only [Registry.releaseThread, bound, left]
  rfl

theorem leave_domains_of_ne {domain other : DomainId}
    (bound : registry.bindings.get? thread = some domain) (apart : other ≠ domain) :
    (registry.leave thread).domains.get? other = registry.domains.get? other := by
  have spared : registry.bindings.get? thread ≠ some other := fun same =>
    apart (Option.some.inj (bound.symm.trans same)).symm
  simp [Registry.leave, get?_uncount, spared]

end Registry

end Steward.Domain
