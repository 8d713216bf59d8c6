import Steward.Proofs.Domain.Counter
import Steward.Proofs.Domain.Holding

/-! Domains within a byte cap. Only a charge makes a byte counter grow, and a charge that was
admitted for the domain that it goes to leaves that domain within the budget. -/

set_option autoImplicit false

namespace Steward.Domain.Registry

variable {registry after : Registry}

theorem limits_release (registry : Registry) (site : Site) :
    (registry.release site).2.limits = registry.limits := by
  unfold release
  split <;> rfl

theorem limits_releasePartial (registry : Registry) (site : Site) (bytes : Nat) :
    (registry.releasePartial site bytes).2.limits = registry.limits := by
  unfold releasePartial
  split <;> rfl

theorem limits_turn {operation : Operation} (step : Turn registry operation after) :
    after.limits = registry.limits := by
  cases step with
  | released site => exact registry.limits_release site
  | credited site bytes => exact registry.limits_releasePartial site bytes
  | _ => rfl

theorem bytes?_releasePartial_le {site : Site} {bytes used : Nat} {domain : DomainId}
    (now : (registry.releasePartial site bytes).2.bytes? domain = some used) :
    ∃ before, registry.bytes? domain = some before ∧ used ≤ before := by
  unfold releasePartial at now
  split at now
  · exact ⟨used, now, Nat.le_refl used⟩
  · rw [bytes?_credit] at now
    obtain ⟨before, present, rfl⟩ := Option.map_eq_some_iff.1 now
    exact ⟨before, present, Nat.sub_le _ _⟩

/-- No live domain uses more than a cap. -/
def Within (registry : Registry) (cap : Nat) : Prop :=
  ∀ domain used, registry.bytes? domain = some used → used ≤ cap

namespace Within

variable {cap : Nat}

theorem releasePartial (within : registry.Within cap) (site : Site) (bytes : Nat) :
    (registry.releasePartial site bytes).2.Within cap := by
  intro domain used now
  obtain ⟨before, present, less⟩ := bytes?_releasePartial_le now
  exact Nat.le_trans less (within domain before present)

theorem release (within : registry.Within cap) (site : Site) :
    (registry.release site).2.Within cap := by
  rw [release_eq_releasePartial]
  exact within.releasePartial site _

theorem drop (within : registry.Within cap) (domain : DomainId) :
    (registry.drop domain).Within cap := by
  intro other used now
  rw [bytes?_drop] at now
  split at now
  · cases now
  · exact within other used now

theorem leave (within : registry.Within cap) (thread : ThreadId) :
    (registry.leave thread).Within cap := by
  intro domain used now
  rw [bytes?_leave] at now
  exact within domain used now

theorem bind (within : registry.Within cap) (domain : DomainId) (thread : ThreadId) :
    (registry.bind domain thread).Within cap := by
  intro other used now
  rw [bytes?_bind] at now
  exact within other used now

theorem charge (within : registry.Within cap) (thread : ThreadId) (bytes : Nat) (site : Site)
    (room : ∀ domain used, (registry.entry thread site).domain = some domain →
      registry.bytes? domain = some used → used + bytes ≤ cap) :
    (registry.charge thread bytes site).Within cap := by
  intro domain used now
  rw [bytes?_charge] at now
  obtain ⟨before, present, rfl⟩ := Option.map_eq_some_iff.1 now
  split
  · next home => exact room domain before home present
  · exact within domain before present

/-- Domains stay within a cap in every turn that is not a charge. -/
theorem turn {operation : Operation} (within : registry.Within cap)
    (step : Turn registry operation after) (quiet : operation.charges = false) :
    after.Within cap := by
  cases step with
  | aside _ _ _ => exact within
  | @founded domain thread manager fresh =>
    intro other used now
    rw [bytes?_found] at now
    split at now
    · cases now
      exact Nat.zero_le cap
    · exact within other used now
  | acquired child _ _ => exact within.bind _ child
  | reserved child _ _ => exact within.bind _ child
  | left _ _ => exact within.leave _
  | ended _ _ _ => exact (within.leave _).drop _
  | unloaded _ _ => exact within.drop _
  | charged _ _ _ => cases quiet
  | released site => exact within.release site
  | credited site bytes => exact within.releasePartial site bytes
  | forgotten _ =>
    intro other used now
    rw [bytes?_forget] at now
    obtain ⟨before, present, rfl⟩ := Option.map_eq_some_iff.1 now
    split
    · exact Nat.zero_le cap
    · exact within other before present

end Within

theorem domain_entry_of_absent {thread : ThreadId} {site : Site}
    (absent : registry.held? site = none) :
    (registry.entry thread site).domain = registry.bindings.get? thread := by
  simp [entry, Assoc.getD, registry.held?_eq_none_iff.1 absent]

/-- Whoever is admitted leaves the thread's domain within the budget. -/
theorem le_of_not_overBudget {thread : ThreadId} {bytes used : Nat} {domain : DomainId}
    (admitted : registry.overBudget? thread bytes = none)
    (capped : registry.limits.maxBytes ≠ 0) (small : registry.limits.maxBytes < Word.top)
    (bound : registry.bindings.get? thread = some domain)
    (live : registry.bytes? domain = some used) : used + bytes ≤ registry.limits.maxBytes := by
  obtain ⟨record, present, rfl⟩ := Option.map_eq_some_iff.1 live
  have fits : ¬registry.limits.maxBytes < Word.saturatingAdd record.bytes bytes := by
    intro past
    simp [overBudget?, bound, present, capped, past] at admitted
  -- A sum that stopped at the largest word would be past the budget, which is smaller.
  unfold Word.saturatingAdd at fits
  omega

end Steward.Domain.Registry
