import Steward.Proofs.Domain.Belonging

/-! What a domain owes for a site: the bytes that are charged there, if the charge is the domain's.
Its byte counter is the sum of its dues. -/

set_option autoImplicit false

namespace Steward.Domain.Registry

/-- The domain that the charge at a site belongs to. -/
def payer? (registry : Registry) (site : Site) : Option DomainId :=
  (registry.ledger.get? site).bind Charge.domain

/-- What a domain owes for a site. -/
def dues (registry : Registry) (domain : DomainId) (site : Site) : Nat :=
  ((registry.ledger.get? site).map (domainShare domain)).getD 0

variable {registry after : Registry} {operation : Operation} {domain : DomainId} {site : Site}

theorem dues_of_absent (absent : registry.held? site = none) : registry.dues domain site = 0 := by
  rw [dues, registry.held?_eq_none_iff.1 absent]
  rfl

theorem dues_of_gone (balanced : registry.Balanced)
    (gone : registry.domains.contains domain = false) : registry.dues domain site = 0 := by
  unfold dues
  cases found : registry.ledger.get? site with
  | none => rfl
  | some charge =>
    by_cases owner : charge.domain = some domain
    · have live := balanced.live site charge domain found owner
      rw [gone] at live
      cases live
    · simp [domainShare, owner]

theorem dues_charge (thread : ThreadId) (bytes : Nat) (site other : Site) :
    (registry.charge thread bytes site).dues domain other = registry.dues domain other +
      if other = site ∧ (registry.charge thread bytes site).payer? site = some domain then bytes
      else 0 := by
  have payer : (registry.charge thread bytes site).payer? site =
      (registry.entry thread site).domain := by simp [payer?, charge, entry]
  by_cases same : other = site
  · subst same
    rw [payer]
    unfold dues charge entry Assoc.getD
    cases registry.ledger.get? other with
    | none => simp [domainShare]
    | some old =>
      by_cases owner : old.domain = some domain
      · simp [domainShare, owner]
      · simp [domainShare, owner]
  · simp [dues, charge, same]

theorem dues_releasePartial (site other : Site) (bytes : Nat) :
    (registry.releasePartial site bytes).2.dues domain other =
      if other = site then registry.dues domain site - bytes else registry.dues domain other := by
  cases found : registry.ledger.get? site with
  | none =>
    by_cases same : other = site
    · simp [releasePartial, dues, found, same]
    · simp [releasePartial, found, same]
  | some charge =>
    rw [releasePartial_of_get? bytes found]
    have less : charge.bytes - min bytes charge.bytes = charge.bytes - bytes := by omega
    by_cases same : other = site
    · subst same
      by_cases gone : charge.bytes - bytes = 0
      · by_cases owner : charge.domain = some domain
        · simp [dues, credit, shrink, less, gone, found, domainShare, owner]
        · simp [dues, credit, shrink, less, gone, found, domainShare, owner]
      · by_cases owner : charge.domain = some domain
        · simp [dues, credit, shrink, less, gone, found, domainShare, owner]
        · simp [dues, credit, shrink, less, gone, found, domainShare, owner]
    · by_cases gone : charge.bytes - bytes = 0
      · simp [dues, credit, shrink, less, gone, same]
      · simp [dues, credit, shrink, less, gone, same]

theorem dues_release (site other : Site) :
    (registry.release site).2.dues domain other =
      if other = site then 0 else registry.dues domain other := by
  rw [release_eq_releasePartial, dues_releasePartial]
  by_cases same : other = site
  · cases found : registry.ledger.get? site with
    | none => simp [same, dues, found]
    | some charge =>
      by_cases owner : charge.domain = some domain
      · simp [same, dues, found, domainShare, owner]
      · simp [same, dues, found, domainShare, owner]
  · simp [same]

/-- What is released at a site is taken off the counter as far as it was owed. -/
theorem bytes?_releasePartial_dues (site : Site) (bytes : Nat) :
    (registry.releasePartial site bytes).2.bytes? domain =
      (registry.bytes? domain).map (· - min bytes (registry.dues domain site)) := by
  cases found : registry.ledger.get? site with
  | none => simp [releasePartial, dues, found]
  | some charge =>
    have share : registry.dues domain site = domainShare domain charge := by simp [dues, found]
    rw [releasePartial_of_get? bytes found, bytes?_credit, share]
    change (registry.bytes? domain).map _ = (registry.bytes? domain).map _
    by_cases owner : charge.domain = some domain
    · simp only [domainShare, owner, if_true]
    · simp only [domainShare, owner, if_false, Nat.min_zero]

theorem bytes?_releasePartial_of_clear (nothing : registry.dues domain site = 0) (bytes : Nat) :
    (registry.releasePartial site bytes).2.bytes? domain = registry.bytes? domain := by
  rw [bytes?_releasePartial_dues, nothing]
  simp

theorem bytes?_release_of_clear (nothing : registry.dues domain site = 0) :
    (registry.release site).2.bytes? domain = registry.bytes? domain := by
  rw [release_eq_releasePartial]
  exact bytes?_releasePartial_of_clear nothing _

theorem dues_drop {home : DomainId} (apart : domain ≠ home) :
    (registry.drop home).dues domain site = registry.dues domain site := by
  unfold dues drop
  rw [Assoc.get?_mapValues]
  cases registry.ledger.get? site with
  | none => rfl
  | some charge =>
    by_cases owner : charge.domain = some home
    · simp [detach, domainShare, owner, apart.symm]
    · simp [detach, owner]

theorem dues_forget {home : DomainId} (apart : domain ≠ home) :
    (registry.forget home).dues domain site = registry.dues domain site := by
  unfold dues forget
  rw [Assoc.get?_filter]
  cases registry.ledger.get? site with
  | none => rfl
  | some charge =>
    by_cases owner : charge.domain = some home
    · simp [Option.filter, domainShare, owner, apart.symm]
    · simp [Option.filter, owner]

/-- What a domain that lives on owes for a site stays as it is in every operation that does not name
the site, but for its own reset. -/
theorem Turn.dues (turn : Turn registry operation after) (away : operation.site? ≠ some site)
    (kept : operation ≠ .resetCounters domain) (lives : after.domains.contains domain = true) :
    after.dues domain site = registry.dues domain site := by
  cases turn with
  | aside | founded | acquired | reserved | left => rfl
  | @ended main home _ _ _ _ =>
    rw [contains_drop, Bool.and_eq_true, decide_eq_true_eq] at lives
    exact dues_drop lives.2
  | @unloaded home _ _ =>
    change (registry.drop home).domains.contains domain = true at lives
    rw [contains_drop, Bool.and_eq_true, decide_eq_true_eq] at lives
    exact dues_drop lives.2
  | charged thread bytes other =>
    have apart : site ≠ other := fun same => away (congrArg some same.symm)
    rw [dues_charge, if_neg fun here => apart here.1, Nat.add_zero]
  | released other =>
    have apart : site ≠ other := fun same => away (congrArg some same.symm)
    rw [dues_release, if_neg apart]
  | credited other bytes =>
    have apart : site ≠ other := fun same => away (congrArg some same.symm)
    rw [dues_releasePartial, if_neg apart]
  | @forgotten home _ =>
    refine dues_forget ?_
    rintro rfl
    exact kept rfl

theorem payer?_ne_of_gone (balanced : registry.Balanced)
    (gone : registry.domains.contains domain = false) : registry.payer? site ≠ some domain := by
  intro payer
  obtain ⟨charge, found, owner⟩ := Option.bind_eq_some_iff.1 payer
  have live := balanced.live site charge domain found owner
  rw [gone] at live
  cases live

theorem dues_resetCounters (balanced : registry.Balanced) :
    (registry.perform (.resetCounters domain)).dues domain site = 0 := by
  rw [perform_resetCounters]
  split
  · unfold dues forget
    rw [Assoc.get?_filter]
    cases registry.ledger.get? site with
    | none => rfl
    | some charge =>
      by_cases owner : charge.domain = some domain
      · simp [Option.filter, owner]
      · simp [Option.filter, domainShare, owner]
  · next gone => exact dues_of_gone balanced (Bool.eq_false_iff.2 gone)

/-- A counter is the sum of what its domain owes for the sites where anything is charged. -/
theorem Balanced.eq_sum_dues (balanced : registry.Balanced) {used : Nat}
    (counter : registry.bytes? domain = some used) {sites : List Site} (distinct : sites.Nodup)
    (covers : ∀ site, site ∉ sites → registry.held? site = none) :
    used = (sites.map fun site => registry.dues domain site).sum := by
  rw [balanced.ofDomain domain used counter, chargedTo]
  refine registry.ledger.total_eq_sum _ distinct fun site charge found _ => ?_
  by_contra outside
  have absent := covers site outside
  rw [held?_eq_none_iff, found] at absent
  cases absent

end Steward.Domain.Registry
