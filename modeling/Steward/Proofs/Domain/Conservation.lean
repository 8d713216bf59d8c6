import Steward.Proofs.Domain.Headcount

/-! Byte counters are sums over the ledger. A live domain's counter is the sum of the charges that
belong to it and a thread's total the sum of the charges that it made. Every release is covered by
the counters that it lowers, so that no subtraction stops short at zero. -/

set_option autoImplicit false

namespace Steward.Domain.Registry

/-- What a charge adds to the counter of a domain. -/
def domainShare (domain : DomainId) (charge : Charge) : Nat :=
  if charge.domain = some domain then charge.bytes else 0

/-- What a charge adds to the total of a thread. -/
def threadShare (thread : ThreadId) (charge : Charge) : Nat :=
  if charge.thread = thread then charge.bytes else 0

/-- The bytes of the ledger that belong to a domain. -/
def chargedTo (registry : Registry) (domain : DomainId) : Nat :=
  registry.ledger.total (domainShare domain)

/-- The bytes of the ledger that a thread asked for. -/
def chargedBy (registry : Registry) (thread : ThreadId) : Nat :=
  registry.ledger.total (threadShare thread)

/-- The ledger and the byte counters agree, and no charge belongs to a domain that is gone. -/
structure Balanced (registry : Registry) : Prop where
  live : ∀ site charge domain, registry.ledger.get? site = some charge →
    charge.domain = some domain → registry.domains.contains domain = true
  ofDomain : ∀ domain used, registry.bytes? domain = some used → used = registry.chargedTo domain
  ofThread : ∀ thread, registry.threadMemory thread = registry.chargedBy thread

theorem domainShare_of_empty (domain : DomainId) (charge : Charge) (empty : charge.bytes = 0) :
    domainShare domain charge = 0 := by
  simp [domainShare, empty]

theorem threadShare_of_empty (thread : ThreadId) (charge : Charge) (empty : charge.bytes = 0) :
    threadShare thread charge = 0 := by
  simp [threadShare, empty]

/-! Thread totals -/

theorem getD_subThreadBytes (totals : Assoc ThreadId Nat) (thread other : ThreadId) (bytes : Nat) :
    (subThreadBytes totals thread bytes).getD other 0 =
      totals.getD other 0 - if thread = other then bytes else 0 := by
  unfold subThreadBytes Assoc.getD
  by_cases same : thread = other
  · subst same
    cases found : totals.get? thread with
    | none => simp [found]
    | some total =>
      by_cases small : total ≤ bytes
      · simp [small]
      · simp [small]
  · have apart : other ≠ thread := Ne.symm same
    cases totals.get? thread with
    | none => simp [same]
    | some total =>
      by_cases small : total ≤ bytes
      · simp [small, apart, same]
      · simp [small, apart, same]

theorem getD_foldl_subThreadBytes (charges : List Charge) (totals : Assoc ThreadId Nat)
    (thread : ThreadId) :
    (charges.foldl (fun totals entry => subThreadBytes totals entry.thread entry.bytes)
        totals).getD thread 0 =
      totals.getD thread 0 - (charges.map (threadShare thread)).sum := by
  induction charges generalizing totals with
  | nil => simp
  | cons head rest ih =>
    rw [List.foldl_cons, ih, getD_subThreadBytes, List.map_cons, List.sum_cons, Nat.sub_sub]
    rfl

variable {registry after : Registry}

theorem threadMemory_charge (thread other : ThreadId) (bytes : Nat) (site : Site) :
    (registry.charge thread bytes site).threadMemory other = registry.threadMemory other +
      if (registry.entry thread site).thread = other then bytes else 0 := by
  simp only [threadMemory, charge, entry, Assoc.getD, Assoc.get?_insert]
  split
  · next same => simp [same]
  · next apart => simp [Ne.symm apart]

theorem threadMemory_credit (charge : Charge) (bytes : Nat) (thread : ThreadId) :
    (registry.credit charge bytes).threadMemory thread = registry.threadMemory thread -
      if charge.thread = thread then bytes else 0 :=
  getD_subThreadBytes registry.threadBytes charge.thread thread bytes

/-! Totals of the ledger -/

/-- A charge that is not there yet counts as one of no bytes. -/
theorem total_entry (thread : ThreadId) (site : Site) {amount : Charge → Nat}
    (nothing : ∀ charge, charge.bytes = 0 → amount charge = 0) :
    registry.ledger.total amount =
      (registry.ledger.erase site).total amount + amount (registry.entry thread site) := by
  rw [← registry.ledger.total_erase_add site amount]
  unfold entry Assoc.getD
  cases registry.ledger.get? site with
  | none => simp [nothing ⟨registry.bindings.get? thread, thread, 0⟩ rfl]
  | some charge => simp

/-- What is left of the ledger when a charge gives up some bytes, all of them or not. -/
def shrink (ledger : Assoc Site Charge) (site : Site) (charge : Charge) (bytes : Nat) :
    Assoc Site Charge :=
  if charge.bytes - bytes = 0 then ledger.erase site
  else ledger.insert site { charge with bytes := charge.bytes - bytes }

theorem releasePartial_of_get? {site : Site} {charge : Charge} (bytes : Nat)
    (found : registry.ledger.get? site = some charge) :
    (registry.releasePartial site bytes).2 =
      { registry with ledger := shrink registry.ledger site charge (min bytes charge.bytes) }.credit
        charge (min bytes charge.bytes) := by
  simp [releasePartial, found, shrink]

theorem total_shrink (ledger : Assoc Site Charge) (site : Site) (charge : Charge) (bytes : Nat)
    {amount : Charge → Nat} (nothing : ∀ charge, charge.bytes = 0 → amount charge = 0) :
    (shrink ledger site charge bytes).total amount = (ledger.erase site).total amount +
      amount { charge with bytes := charge.bytes - bytes } := by
  unfold shrink
  split
  · next gone => rw [nothing _ gone, Nat.add_zero]
  · exact Assoc.total_insert _ _ _ _

/-- A site whose charge shrinks keeps whose charge it is; other sites are as they were. -/
theorem get?_shrink {ledger : Assoc Site Charge} {site other : Site} {charge kept : Charge}
    {bytes : Nat} (found : (shrink ledger site charge bytes).get? other = some kept) :
    (other = site ∧ kept = { charge with bytes := charge.bytes - bytes }) ∨
      (other ≠ site ∧ ledger.get? other = some kept) := by
  by_cases same : other = site
  · left
    unfold shrink at found
    split at found
    · simp [same] at found
    · simp only [Assoc.get?_insert, same, if_true, Option.some.injEq] at found
      exact ⟨same, found.symm⟩
  · right
    unfold shrink at found
    split at found
    · exact ⟨same, by simpa [Assoc.get?_erase, same] using found⟩
    · exact ⟨same, by simpa [Assoc.get?_insert, same] using found⟩

namespace Balanced

theorem of_same (balanced : Balanced registry) (ledger : after.ledger = registry.ledger)
    (totals : after.threadBytes = registry.threadBytes)
    (same : ∀ domain, after.bytes? domain = registry.bytes? domain) : Balanced after := by
  constructor
  · intro site charge domain found owner
    rw [← isSome_bytes?, same, isSome_bytes?]
    exact balanced.live site charge domain (ledger ▸ found) owner
  · intro domain used found
    rw [chargedTo, ledger]
    exact balanced.ofDomain domain used (same domain ▸ found)
  · intro thread
    rw [chargedBy, ledger, threadMemory, totals]
    exact balanced.ofThread thread

theorem leave (balanced : Balanced registry) (thread : ThreadId) :
    Balanced (registry.leave thread) :=
  balanced.of_same rfl rfl (registry.bytes?_leave thread)

theorem found (balanced : Balanced registry) {domain : DomainId} (thread : ThreadId)
    (manager : String) (fresh : registry.domains.get? domain = none) :
    Balanced (registry.found domain thread manager) := by
  constructor
  · intro site charge other present owner
    have live := balanced.live site charge other present owner
    rw [← isSome_bytes?] at live ⊢
    rw [bytes?_found]
    split
    · rfl
    · exact live
  · intro other used present
    rw [bytes?_found] at present
    split at present
    · next same =>
      -- A charge that belonged to the new domain would have kept it alive.
      have nothing : registry.chargedTo domain = 0 := by
        apply Assoc.total_eq_zero
        intro entry inside
        by_cases owner : entry.2.domain = some domain
        · have live := balanced.live entry.1 entry.2 domain (Assoc.get?_of_mem inside) owner
          simp [Assoc.contains, fresh] at live
        · simp [domainShare, owner]
      rw [same, ← Option.some.inj present]
      exact nothing.symm
    · exact balanced.ofDomain other used present
  · exact balanced.ofThread

theorem drop (balanced : Balanced registry) (domain : DomainId) :
    Balanced (registry.drop domain) := by
  constructor
  · intro site charge other present owner
    simp only [Registry.drop, Assoc.get?_mapValues, Option.map_eq_some_iff] at present
    obtain ⟨old, before, rfl⟩ := present
    by_cases gone : old.domain = some domain
    · simp [detach, gone] at owner
    · simp only [detach, gone, if_false] at owner
      have apart : other ≠ domain := fun same => gone (same ▸ owner)
      rw [← isSome_bytes?, bytes?_drop, if_neg apart, isSome_bytes?]
      exact balanced.live site old other before owner
  · intro other used present
    rw [bytes?_drop] at present
    split at present
    · cases present
    · next apart =>
      rw [balanced.ofDomain other used present]
      refine (Assoc.total_mapValues _ _ _ fun site charge => ?_).symm
      by_cases gone : charge.domain = some domain
      · simp [detach, domainShare, gone, Ne.symm apart]
      · simp [detach, gone]
  · intro thread
    refine (balanced.ofThread thread).trans (Assoc.total_mapValues _ _ _ fun site charge => ?_).symm
    by_cases gone : charge.domain = some domain
    · simp [detach, threadShare, gone]
    · simp [detach, gone]

theorem charge (balanced : Balanced registry) (counted : Counted registry) (thread : ThreadId)
    (bytes : Nat) (site : Site) : Balanced (registry.charge thread bytes site) := by
  let entry := registry.entry thread site
  have grown : (registry.charge thread bytes site).ledger =
      registry.ledger.insert site { entry with bytes := entry.bytes + bytes } := rfl
  constructor
  · intro other charge domain present owner
    rw [← isSome_bytes?, bytes?_charge, Option.isSome_map, isSome_bytes?]
    rw [grown, Assoc.get?_insert] at present
    split at present
    · -- A new charge belongs to the domain of its thread, which is bound to a live one.
      have home : (registry.entry thread site).domain = some domain := by
        cases Option.some.inj present
        exact owner
      unfold Registry.entry Assoc.getD at home
      cases before : registry.ledger.get? site with
      | none => exact counted.live thread domain (by simpa [before] using home)
      | some old => exact balanced.live site old domain before (by simpa [before] using home)
    · exact balanced.live other charge domain present owner
  · intro domain used present
    rw [bytes?_charge] at present
    obtain ⟨old, before, rfl⟩ := Option.map_eq_some_iff.1 present
    rw [balanced.ofDomain domain old before, chargedTo, chargedTo, grown, Assoc.total_insert,
      total_entry thread site (domainShare_of_empty domain)]
    by_cases home : entry.domain = some domain
    · simp [domainShare, entry, home, Nat.add_assoc]
    · simp [domainShare, entry, home]
  · intro other
    rw [threadMemory_charge, balanced.ofThread other, chargedBy, chargedBy, grown,
      Assoc.total_insert, total_entry thread site (threadShare_of_empty other)]
    by_cases own : entry.thread = other
    · simp [threadShare, entry, own, Nat.add_assoc]
    · simp [threadShare, entry, own]

theorem releasePartial (balanced : Balanced registry) (site : Site) (bytes : Nat) :
    Balanced (registry.releasePartial site bytes).2 := by
  cases found : registry.ledger.get? site with
  | none => simpa [Registry.releasePartial, found] using balanced
  | some charge =>
    rw [releasePartial_of_get? bytes found]
    -- No more is released than the charge has, so that both counters cover it.
    have fits : min bytes charge.bytes ≤ charge.bytes := Nat.min_le_right _ _
    generalize min bytes charge.bytes = released at fits
    constructor
    · intro other kept domain present owner
      rw [← isSome_bytes?, bytes?_credit, Option.isSome_map, isSome_bytes?]
      rcases get?_shrink present with ⟨same, rfl⟩ | ⟨apart, before⟩
      · exact balanced.live site charge domain found owner
      · exact balanced.live other kept domain before owner
    · intro domain used present
      rw [bytes?_credit] at present
      obtain ⟨old, before, rfl⟩ := Option.map_eq_some_iff.1 present
      have sum := balanced.ofDomain domain old before
      have parts := registry.ledger.total_erase_add site (domainShare domain)
      have left := total_shrink registry.ledger site charge released (domainShare_of_empty domain)
      change _ = (shrink registry.ledger site charge released).total (domainShare domain)
      rw [chargedTo, ← parts, found, Option.map_some, Option.getD_some] at sum
      rw [left, sum]
      by_cases owner : charge.domain = some domain
      · simp only [domainShare, owner, if_true]
        omega
      · simp [domainShare, owner]
    · intro thread
      have sum := balanced.ofThread thread
      have parts := registry.ledger.total_erase_add site (threadShare thread)
      have left := total_shrink registry.ledger site charge released (threadShare_of_empty thread)
      change _ = (shrink registry.ledger site charge released).total (threadShare thread)
      rw [chargedBy, ← parts, found, Option.map_some, Option.getD_some] at sum
      rw [left, threadMemory_credit]
      change registry.threadMemory thread - _ = _
      rw [sum]
      by_cases own : charge.thread = thread
      · simp only [threadShare, own, if_true]
        omega
      · simp [threadShare, own]

theorem forget (balanced : Balanced registry) (domain : DomainId) :
    Balanced (registry.forget domain) := by
  constructor
  · intro site charge other present owner
    rw [← isSome_bytes?, bytes?_forget, Option.isSome_map, isSome_bytes?]
    simp only [Registry.forget, Assoc.get?_filter, Option.filter_eq_some_iff] at present
    exact balanced.live site charge other present.1 owner
  · intro other used present
    rw [bytes?_forget] at present
    obtain ⟨old, before, rfl⟩ := Option.map_eq_some_iff.1 present
    by_cases same : other = domain
    · rw [if_pos same]
      symm
      apply Assoc.total_eq_zero
      intro entry inside
      have kept : entry.2.domain ≠ some domain := by simpa using (List.mem_filter.1 inside).2
      simp [domainShare, same, kept]
    · rw [if_neg same, balanced.ofDomain other old before]
      refine (Assoc.total_filter_of_dropped _ _ _ fun site charge dropped => ?_).symm
      have owner : charge.domain = some domain := by simpa using dropped
      simp [domainShare, owner, Ne.symm same]
  · intro thread
    have parts := registry.ledger.total_filter_add (fun _ entry => entry.domain = some domain)
      (threadShare thread)
    have sum := balanced.ofThread thread
    have less : (registry.forget domain).threadMemory thread =
        registry.threadMemory thread -
          (registry.ledger.filter fun _ entry => entry.domain = some domain).total
            (threadShare thread) := by
      simp only [threadMemory, Registry.forget, getD_foldl_subThreadBytes, Assoc.values,
        Assoc.total, List.map_map, Function.comp_def]
    have kept : (registry.forget domain).chargedBy thread =
        (registry.ledger.filter fun _ entry => !decide (entry.domain = some domain)).total
          (threadShare thread) := by
      simp [chargedBy, Registry.forget]
    rw [less, kept, sum, chargedBy]
    omega

/-- Every turn of the register keeps the ledger and the byte counters in agreement. -/
theorem turn {operation : Operation} (step : Turn registry operation after)
    (counted : Counted registry) (balanced : Balanced registry) : Balanced after := by
  cases step with
  | aside _ events zombies => exact ⟨balanced.live, balanced.ofDomain, balanced.ofThread⟩
  | founded thread manager fresh => exact balanced.found thread manager fresh
  | acquired child _ _ => exact balanced.of_same rfl rfl fun other => bytes?_bind _ _ other _
  | reserved child _ _ => exact balanced.of_same rfl rfl fun other => bytes?_bind _ _ other _
  | left _ _ => exact balanced.leave _
  | ended _ _ _ => exact (balanced.leave _).drop _
  | @unloaded domain _ events =>
    have dropped := balanced.drop domain
    exact ⟨dropped.live, dropped.ofDomain, dropped.ofThread⟩
  | charged thread bytes site => exact balanced.charge counted thread bytes site
  | released site =>
    rw [release_eq_releasePartial]
    exact balanced.releasePartial site _
  | credited site bytes => exact balanced.releasePartial site bytes
  | forgotten _ => exact balanced.forget _

theorem empty (limits : Limits) (events : EventQueue) : Balanced { limits, events } := by
  constructor
  · intro site charge domain found
    cases found
  · intro domain used found
    cases found
  · intro thread
    rfl

theorem run (limits : Limits) (events : EventQueue) (operations : List Operation) :
    Balanced (Registry.run { limits, events } operations) :=
  (@run_induction (fun registry => Counted registry ∧ Balanced registry)
    (fun _ _ _ step both => ⟨both.1.turn step, both.2.turn step both.1⟩) _
    ⟨Counted.empty limits events, empty limits events⟩ operations).2

theorem le_bytes (balanced : Balanced registry) {site : Site} {charge : Charge} {domain : DomainId}
    {record : Record} (found : registry.ledger.get? site = some charge)
    (owner : charge.domain = some domain) (live : registry.domains.get? domain = some record) :
    charge.bytes ≤ record.bytes := by
  have part := Assoc.le_total_of_get? (domainShare domain) found
  have sum := balanced.ofDomain domain record.bytes (by simp [bytes?, live])
  simp only [domainShare, owner, if_true] at part
  rw [sum]
  exact part

theorem le_threadMemory (balanced : Balanced registry) {site : Site} {charge : Charge}
    (found : registry.ledger.get? site = some charge) :
    charge.bytes ≤ registry.threadMemory charge.thread := by
  have part := Assoc.le_total_of_get? (threadShare charge.thread) found
  simp only [threadShare, if_true] at part
  rw [balanced.ofThread]
  exact part

end Balanced

/-- In every state of a run from an empty register, a live domain's counter is the sum of the
charges that belong to it, a thread's total the sum of the charges that it made, and no charge
belongs to a domain that is gone. A charge is covered by the two counters that its release lowers,
and a release where nothing is charged changes nothing. -/
theorem bytes_eq_chargedTo (limits : Limits) (events : EventQueue) (operations : List Operation) :
    let registry := Registry.run { limits, events } operations
    (∀ domain record, registry.domains.get? domain = some record →
      record.bytes = registry.chargedTo domain) ∧
    (∀ thread, registry.threadMemory thread = registry.chargedBy thread) ∧
    (∀ site charge domain, registry.ledger.get? site = some charge →
      charge.domain = some domain → registry.domains.contains domain = true) ∧
    (∀ site charge, registry.ledger.get? site = some charge →
      (∀ domain record, charge.domain = some domain →
        registry.domains.get? domain = some record → charge.bytes ≤ record.bytes) ∧
      charge.bytes ≤ registry.threadMemory charge.thread) ∧
    ∀ site bytes, registry.ledger.get? site = none →
      registry.release site = (0, registry) ∧
        registry.releasePartial site bytes = (0, registry) := by
  have balanced := Balanced.run limits events operations
  refine ⟨?_, balanced.ofThread, balanced.live, ?_, ?_⟩
  · intro domain record live
    exact balanced.ofDomain domain record.bytes (by simp [bytes?, live])
  · intro site charge found
    exact ⟨fun _ _ owner live => balanced.le_bytes found owner live,
      balanced.le_threadMemory found⟩
  · intro site bytes absent
    simp [release, releasePartial, absent]

end Steward.Domain.Registry
