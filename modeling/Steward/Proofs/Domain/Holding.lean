import Steward.Proofs.Domain.Operation
import Steward.Proofs.Total

/-! The bytes that the ledger holds at one site. An operation changes them at the site that it
names and nowhere else, apart from a reset, which forgets the charges of a whole domain. -/

set_option autoImplicit false

namespace Steward.Domain

/-- The site that an operation charges or releases. -/
def Operation.site? : Operation → Option Site
  | charge _ _ site => some site
  | release site => some site
  | releasePartial site _ => some site
  | _ => none

def Operation.charges : Operation → Bool
  | charge _ _ _ => true
  | _ => false

namespace Registry

variable (registry : Registry)

/-- The bytes that are charged at a site, if there is a charge. -/
def held? (site : Site) : Option Nat := (registry.ledger.get? site).map Charge.bytes

/-- The bytes that are charged at an address; no charge is one of no bytes. -/
def heldAt (address : Nat) : Nat := (registry.held? (.address address)).getD 0

theorem held?_eq_none_iff {site : Site} :
    registry.held? site = none ↔ registry.ledger.get? site = none :=
  Option.map_eq_none_iff

theorem held?_charge (thread : ThreadId) (bytes : Nat) (site other : Site) :
    (registry.charge thread bytes site).held? other =
      if other = site then some ((registry.held? site).getD 0 + bytes)
      else registry.held? other := by
  by_cases same : other = site
  · subst same
    cases found : registry.ledger.get? other <;>
      simp [held?, charge, Assoc.getD, found]
  · simp [held?, charge, same]

theorem held?_releasePartial (site other : Site) (bytes : Nat) :
    (registry.releasePartial site bytes).2.held? other =
      if other = site then ((registry.held? site).map (· - bytes)).filter (· ≠ 0)
      else registry.held? other := by
  unfold releasePartial
  cases found : registry.ledger.get? site with
  | none =>
    by_cases same : other = site
    · simp [held?, same, found]
    · simp [same]
  | some entry =>
    have less : entry.bytes - min bytes entry.bytes = entry.bytes - bytes := by omega
    by_cases same : other = site
    · by_cases gone : entry.bytes - bytes = 0
      · simp [held?, credit, same, found, less, gone, Option.filter]
      · simp [held?, credit, same, found, less, gone, Option.filter]
    · by_cases gone : entry.bytes - bytes = 0
      · simp [held?, credit, same, less, gone]
      · simp [held?, credit, same, less, gone]

theorem heldAt_releasePartial (address bytes : Nat) :
    (registry.releasePartial (.address address) bytes).2.heldAt address =
      registry.heldAt address - bytes := by
  rw [heldAt, held?_releasePartial, if_pos rfl, heldAt]
  cases registry.held? (.address address) with
  | none => simp
  | some held =>
    by_cases gone : held - bytes = 0
    · simp [Option.filter, gone]
    · simp [Option.filter, gone]

theorem held?_release (site other : Site) :
    (registry.release site).2.held? other =
      if other = site then none else registry.held? other := by
  rw [release_eq_releasePartial, held?_releasePartial]
  cases found : registry.ledger.get? site <;> simp [held?, found, Option.filter]

theorem held?_drop (domain : DomainId) (site : Site) :
    (registry.drop domain).held? site = registry.held? site := by
  simp only [held?, drop, Assoc.get?_mapValues, Option.map_map]
  refine Option.map_congr fun charge _ => ?_
  simp only [Function.comp_apply, detach]
  split <;> rfl

theorem held?_forget (domain : DomainId) (site : Site) :
    (registry.forget domain).held? site = registry.held? site ∨
      (registry.forget domain).held? site = none := by
  simp only [held?, forget, Assoc.get?_filter]
  cases registry.ledger.get? site with
  | none => exact .inl rfl
  | some charge =>
    by_cases kept : charge.domain = some domain
    · exact .inr (by simp [Option.filter, kept])
    · exact .inl (by simp [Option.filter, kept])

/-- Away from the site that it names, only a reset changes what is held. -/
theorem held?_turn {registry after : Registry} {operation : Operation}
    (step : Turn registry operation after) {site : Site}
    (away : operation.site? ≠ some site) :
    after.held? site = registry.held? site ∨
      (∃ domain, operation = .resetCounters domain) ∧ after.held? site = none := by
  cases step with
  | aside _ _ _ => exact .inl rfl
  | founded _ _ _ => exact .inl rfl
  | acquired _ _ _ => exact .inl rfl
  | reserved _ _ _ => exact .inl rfl
  | left _ _ => exact .inl rfl
  | ended _ _ _ => exact .inl (held?_drop _ _ site)
  | unloaded _ _ => exact .inl (registry.held?_drop _ site)
  | charged thread bytes other =>
    have apart : site ≠ other := fun same => away (congrArg some same.symm)
    rw [held?_charge, if_neg apart]
    exact .inl rfl
  | released other =>
    have apart : site ≠ other := fun same => away (congrArg some same.symm)
    rw [held?_release, if_neg apart]
    exact .inl rfl
  | credited other bytes =>
    have apart : site ≠ other := fun same => away (congrArg some same.symm)
    rw [held?_releasePartial, if_neg apart]
    exact .inl rfl
  | @forgotten domain _ =>
    rcases registry.held?_forget domain site with same | gone
    · exact .inl same
    · exact .inr ⟨⟨domain, rfl⟩, gone⟩

/-- Nothing is charged anew but by a charge. -/
theorem held?_none_turn {registry after : Registry} {operation : Operation}
    (step : Turn registry operation after) {site : Site}
    (quiet : operation.charges = false ∨ operation.site? ≠ some site)
    (nothing : registry.held? site = none) : after.held? site = none := by
  by_cases away : operation.site? = some site
  · -- At the site that it names, an operation that does not charge can only release.
    have silent := quiet.resolve_right (not_not_intro away)
    cases step with
    | charged _ _ _ => cases silent
    | released other =>
      rw [held?_release, nothing]
      split <;> rfl
    | credited other bytes =>
      cases away
      rw [held?_releasePartial, if_pos rfl, nothing]
      rfl
    | aside _ _ _ => exact nothing
    | _ => cases away
  · rcases held?_turn step away with same | ⟨_, gone⟩
    · exact same.trans nothing
    · exact gone

end Registry

end Steward.Domain
