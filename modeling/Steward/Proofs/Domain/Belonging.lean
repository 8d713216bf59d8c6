import Steward.Proofs.Domain.Conservation
import Steward.Proofs.Domain.Holding
import Steward.Proofs.Domain.MainThread

/-! What belongs to a domain. A domain ends in two ways only; its threads are brought into it, its
charges are opened by them, and a charge moves no other domain's counter than the one of the domain
it belongs to. -/

set_option autoImplicit false

namespace Steward.Domain.Registry

/-- The operation brings a thread into a domain. -/
def Brings (registry : Registry) (operation : Operation) (guest : ThreadId) (domain : DomainId) :
    Prop :=
  match operation with
  | .create home main _ => main = guest ∧ home = domain
  | .acquireThread parent child | .reserveThread parent child =>
      child = guest ∧ registry.bindings.get? parent = some domain
  | _ => False

variable {registry after : Registry} {operation : Operation} {domain : DomainId} {site : Site}

/-! ### Turns -/

theorem contains_drop (registry : Registry) (gone domain : DomainId) :
    (registry.drop gone).domains.contains domain =
      (registry.domains.contains domain && decide (domain ≠ gone)) := by
  simp only [← isSome_bytes?, bytes?_drop]
  by_cases same : domain = gone <;> simp [same]

theorem get?_drop {gone : DomainId} {new : Charge} :
    (registry.drop gone).ledger.get? site = some new ↔
      ∃ old, registry.ledger.get? site = some old ∧ detach gone old = new := by
  simp [drop, Assoc.get?_mapValues]

/-- A live domain ends by its unload or by the release of its main thread, and not otherwise. -/
theorem Turn.ends (turn : Turn registry operation after)
    (live : registry.domains.contains domain = true)
    (gone : after.domains.contains domain = false) :
    operation = .unload domain ∨ ∃ main, operation = .releaseThread main ∧
      registry.main? domain = some main ∧ registry.bindings.get? main = some domain := by
  have lives : ∀ {other : Registry}, other.domains.contains domain =
      registry.domains.contains domain → other.domains.contains domain ≠ false := by
    intro other same
    simp [same, live]
  have uncounted : ∀ thread, (registry.leave thread).domains.contains domain =
      registry.domains.contains domain := by
    intro thread
    rw [← isSome_bytes?, bytes?_leave, isSome_bytes?]
  cases turn with
  | aside => exact absurd gone (lives rfl)
  | founded thread manager fresh =>
    rw [← isSome_bytes?, bytes?_found] at gone
    split at gone
    · cases gone
    · exact absurd gone (by simp [isSome_bytes?, live])
  | acquired | reserved =>
    refine absurd gone (lives ?_)
    rw [← isSome_bytes?, bytes?_bind, isSome_bytes?]
  | left => exact absurd gone (lives (uncounted _))
  | @ended main home record bound led same =>
    rw [contains_drop, uncounted, live] at gone
    obtain rfl : domain = home := by simpa using gone
    refine .inr ⟨main, rfl, ?_, bound⟩
    rw [← registry.main?_leave main, Registry.main?, led, Option.map_some, same]
  | @unloaded home _ _ =>
    change (registry.drop home).domains.contains domain = false at gone
    rw [contains_drop, live] at gone
    obtain rfl : domain = home := by simpa using gone
    exact .inl rfl
  | charged =>
    refine absurd gone (lives ?_)
    rw [← isSome_bytes?, bytes?_charge, Option.isSome_map, isSome_bytes?]
  | released =>
    refine absurd gone (lives ?_)
    rw [release_eq_releasePartial, ← isSome_threads?, threads?_releasePartial, isSome_threads?]
  | credited =>
    refine absurd gone (lives ?_)
    rw [← isSome_threads?, threads?_releasePartial, isSome_threads?]
  | forgotten =>
    refine absurd gone (lives ?_)
    rw [← isSome_threads?, threads?_forget, isSome_threads?]

/-- Whoever is in a domain was there before or was brought there. -/
theorem Turn.brings (turn : Turn registry operation after) {guest : ThreadId}
    (now : after.bindings.get? guest = some domain) :
    registry.bindings.get? guest = some domain ∨ registry.Brings operation guest domain := by
  have inserted : ∀ {other : ThreadId} {home : DomainId},
      (registry.bindings.insert other home).get? guest = some domain →
      registry.bindings.get? guest = some domain ∨ other = guest ∧ home = domain := by
    intro other home there
    rw [Assoc.get?_insert] at there
    split at there
    · next same => exact .inr ⟨same.symm, Option.some.inj there⟩
    · exact .inl there
  have erased : ∀ {other : ThreadId},
      (registry.bindings.erase other).get? guest = some domain →
      registry.bindings.get? guest = some domain := by
    intro other there
    rw [Assoc.get?_erase] at there
    split at there
    · cases there
    · exact there
  cases turn with
  | aside | charged | forgotten => exact .inl now
  | founded => exact inserted now
  | acquired child bound | reserved child bound =>
    obtain there | ⟨same, rfl⟩ := inserted now
    · exact .inl there
    · exact .inr ⟨same, bound⟩
  | left => exact .inl (erased now)
  | ended => exact .inl (erased (bindings_drop.1 now).1)
  | unloaded => exact .inl (bindings_drop.1 now).1
  | released =>
    rw [release_eq_releasePartial, bindings_releasePartial] at now
    exact .inl now
  | credited =>
    rw [bindings_releasePartial] at now
    exact .inl now

/-- A charge that stays when a domain ends keeps its domain, if that is another one. -/
theorem entry_drop {gone : DomainId} {old new : Charge}
    (before : registry.ledger.get? site = some old)
    (now : (registry.drop gone).ledger.get? site = some new) :
    new.domain = old.domain ∨ new.domain = none ∧
      ∃ home, old.domain = some home ∧ (registry.drop gone).domains.contains home = false := by
  obtain ⟨same, found, rfl⟩ := get?_drop.1 now
  cases Option.some.inj (before.symm.trans found)
  unfold detach
  split
  · next owner => exact .inr ⟨rfl, gone, owner, by simp [contains_drop]⟩
  · exact .inl rfl

theorem entry_releasePartial {bytes : Nat} {old new : Charge}
    (before : registry.ledger.get? site = some old) {other : Site}
    (now : (registry.releasePartial other bytes).2.ledger.get? site = some new) :
    new.domain = old.domain := by
  cases found : registry.ledger.get? other with
  | none =>
    simp only [releasePartial, found] at now
    cases Option.some.inj (before.symm.trans now)
    rfl
  | some charge =>
    rw [releasePartial_of_get? bytes found] at now
    obtain ⟨rfl, rfl⟩ | ⟨_, stays⟩ := get?_shrink now
    · cases Option.some.inj (before.symm.trans found)
      rfl
    · cases Option.some.inj (before.symm.trans stays)
      rfl

/-- A charge that stays keeps its domain as long as that one is live. -/
theorem Turn.entry_kept (turn : Turn registry operation after) {old new : Charge}
    (before : registry.ledger.get? site = some old) (now : after.ledger.get? site = some new) :
    new.domain = old.domain ∨ new.domain = none ∧
      ∃ home, old.domain = some home ∧ after.domains.contains home = false := by
  have stays : registry.ledger.get? site = some new → new.domain = old.domain := by
    intro same
    cases Option.some.inj (before.symm.trans same)
    rfl
  cases turn with
  | aside | founded | acquired | reserved | left => exact .inl (stays now)
  | ended => exact entry_drop before now
  | unloaded => exact entry_drop before now
  | charged thread bytes other =>
    rw [charge, Assoc.get?_insert] at now
    split at now
    · next same =>
      cases now
      simp [Assoc.getD, ← same, before]
    · exact .inl (stays now)
  | released =>
    rw [release_eq_releasePartial] at now
    exact .inl (entry_releasePartial before now)
  | credited => exact .inl (entry_releasePartial before now)
  | forgotten =>
    rw [forget, Assoc.get?_filter] at now
    exact .inl (stays (Option.filter_eq_some_iff.1 now).1)

/-- A charge that is new belongs to the domain of the thread that was charged. -/
theorem Turn.entry_new (turn : Turn registry operation after) {new : Charge}
    (before : registry.ledger.get? site = none) (now : after.ledger.get? site = some new) :
    ∃ thread bytes, operation = .charge thread bytes site ∧
      new.domain = registry.bindings.get? thread := by
  cases charges : operation.charges with
  | false =>
    have nothing := held?_none_turn turn (.inl charges) (registry.held?_eq_none_iff.2 before)
    rw [held?_eq_none_iff, now] at nothing
    cases nothing
  | true =>
    cases turn with
    | charged thread bytes other =>
      rw [charge, Assoc.get?_insert] at now
      split at now
      · next same =>
        cases now
        subst same
        exact ⟨thread, bytes, rfl, by simp [Assoc.getD, before]⟩
      · cases before.symm.trans now
    | aside => cases before.symm.trans now
    | _ => cases charges

theorem ledger_releasePartial_of_ne {other : Site} (apart : other ≠ site) (bytes : Nat) :
    (registry.releasePartial site bytes).2.ledger.get? other = registry.ledger.get? other := by
  cases found : registry.ledger.get? site with
  | none => simp [releasePartial, found]
  | some charge =>
    rw [releasePartial_of_get? bytes found]
    change (shrink registry.ledger site charge _).get? other = _
    unfold shrink
    split
    · exact Assoc.get?_erase_of_ne _ apart
    · exact Assoc.get?_insert_of_ne _ apart _

/-- Away from the site that it names, an operation that resets nothing leaves a charge as it is, or
cuts it loose from a domain that ends. -/
theorem Turn.charge_kept (turn : Turn registry operation after) (away : operation.site? ≠ some site)
    (kept : ∀ domain, operation ≠ .resetCounters domain) {charge : Charge}
    (found : registry.ledger.get? site = some charge) :
    after.ledger.get? site = some charge ∨
      after.ledger.get? site = some { charge with domain := none } ∧
        ∃ home, charge.domain = some home ∧ after.domains.contains home = false := by
  have apart : ∀ {other : Site}, operation.site? = some other → site ≠ other :=
    fun named same => away (same ▸ named)
  have dropped : ∀ {other : Registry} (gone : DomainId), other.ledger.get? site = some charge →
      (other.drop gone).ledger.get? site = some charge ∨
        (other.drop gone).ledger.get? site = some { charge with domain := none } ∧
          ∃ home, charge.domain = some home ∧ (other.drop gone).domains.contains home = false := by
    intro other gone before
    have now : (other.drop gone).ledger.get? site = some (detach gone charge) :=
      get?_drop.2 ⟨charge, before, rfl⟩
    unfold detach at now
    split at now
    · next owner => exact .inr ⟨now, gone, owner, by simp [contains_drop]⟩
    · exact .inl now
  cases turn with
  | aside | founded | acquired | reserved | left => exact .inl found
  | @ended _ home => exact dropped home found
  | @unloaded home => exact dropped home found
  | charged => exact .inl ((Assoc.get?_insert_of_ne _ (apart rfl) _).trans found)
  | released =>
    rw [release_eq_releasePartial]
    exact .inl ((ledger_releasePartial_of_ne (apart rfl) _).trans found)
  | credited => exact .inl ((ledger_releasePartial_of_ne (apart rfl) _).trans found)
  | @forgotten home => exact absurd rfl (kept home)

/-- Such a charge stays with its domain for as long as that one is live. -/
theorem Turn.charge_owner (turn : Turn registry operation after) (balanced : after.Balanced)
    (away : operation.site? ≠ some site) (kept : ∀ domain, operation ≠ .resetCounters domain)
    {charge : Charge} (found : registry.ledger.get? site = some charge) :
    ∃ owner, after.ledger.get? site = some { charge with domain := owner } ∧
      ∀ domain, owner = some domain ↔
        charge.domain = some domain ∧ after.domains.contains domain = true := by
  rcases turn.charge_kept away kept found with same | ⟨loose, home, owner, gone⟩
  · refine ⟨charge.domain, same, fun domain => ?_⟩
    exact ⟨fun owner => ⟨owner, balanced.live site charge domain same owner⟩, And.left⟩
  · refine ⟨none, loose, fun domain => ?_⟩
    constructor
    · intro named
      cases named
    · rintro ⟨owned, live⟩
      cases Option.some.inj (owner.symm.trans owned)
      exact absurd (gone.symm.trans live) Bool.false_ne_true

/-- The counter of a domain that lives on is moved by charges, releases and resets only. -/
theorem Turn.bytes?_of_aloof (turn : Turn registry operation after)
    (aloof : operation.site? = none) (kept : ∀ other, operation ≠ .resetCounters other)
    (live : registry.domains.contains domain = true)
    (lives : after.domains.contains domain = true) :
    after.bytes? domain = registry.bytes? domain := by
  cases turn with
  | aside => rfl
  | founded thread manager fresh =>
    rw [bytes?_found, if_neg]
    rintro rfl
    simp [Assoc.contains, fresh] at live
  | acquired | reserved => exact bytes?_bind _ _ _ _
  | left => exact bytes?_leave _ _ _
  | ended =>
    rw [contains_drop, Bool.and_eq_true, decide_eq_true_eq] at lives
    rw [bytes?_drop, if_neg lives.2, bytes?_leave]
  | @unloaded home _ _ =>
    change (registry.drop home).domains.contains domain = true at lives
    change (registry.drop home).bytes? domain = _
    rw [contains_drop, Bool.and_eq_true, decide_eq_true_eq] at lives
    rw [bytes?_drop, if_neg lives.2]
  | charged | released | credited => cases aloof
  | forgotten => exact absurd rfl (kept _)

theorem perform_resetCounters (registry : Registry) (domain : DomainId) :
    registry.perform (.resetCounters domain) =
      if registry.domains.contains domain then registry.forget domain else registry := by
  simp only [perform, resetCounters]
  split <;> rfl

/-! ### What one operation moves -/

variable {used : Nat}

theorem bytes?_charge_own {thread : ThreadId} {bytes : Nat} {mine : Bool}
    (counter : registry.bytes? domain = some used)
    (own : ∀ charge, (registry.charge thread bytes site).ledger.get? site = some charge →
      (charge.domain = some domain ↔ mine = true)) :
    (registry.charge thread bytes site).bytes? domain =
      some (used + if mine then bytes else 0) := by
  have home : (registry.entry thread site).domain = some domain ↔ mine = true :=
    own { registry.entry thread site with bytes := (registry.entry thread site).bytes + bytes }
      (Assoc.get?_insert_self ..)
  rw [bytes?_charge, counter, Option.map_some]
  simp only [home]

/-- What is released of a charge is taken off the counter of its domain, which covers it. -/
theorem Balanced.bytes?_releasePartial_own (balanced : registry.Balanced) {mine : Bool}
    (counter : registry.bytes? domain = some used)
    (own : ∀ charge, registry.ledger.get? site = some charge →
      (charge.domain = some domain ↔ mine = true)) (bytes : Nat) :
    ∃ left, (registry.releasePartial site bytes).2.bytes? domain = some left ∧
      left + (if mine then (registry.releasePartial site bytes).1 else 0) = used := by
  cases found : registry.ledger.get? site with
  | none => exact ⟨used, by simp [Registry.releasePartial, found, counter]⟩
  | some charge =>
    have amount : (registry.releasePartial site bytes).1 = min bytes charge.bytes := by
      simp [Registry.releasePartial, found]
    rw [amount, releasePartial_of_get? bytes found, bytes?_credit]
    change ∃ left, (registry.bytes? domain).map _ = some left ∧ _
    rw [counter, Option.map_some]
    refine ⟨_, rfl, ?_⟩
    cases mine with
    | false =>
      have other : charge.domain ≠ some domain := fun same =>
        Bool.false_ne_true ((own charge found).1 same)
      simp [other]
    | true =>
      have owner := (own charge found).2 rfl
      obtain ⟨record, live, rfl⟩ := Option.map_eq_some_iff.1 counter
      have covered := balanced.le_bytes found owner live
      simp only [owner, if_true]
      omega

/-- A reset takes the charges of its domain off the counter, and no charge of another domain. -/
theorem Balanced.bytes?_resetCounters_own (balanced : registry.Balanced) {mine : Site → Bool}
    (counter : registry.bytes? domain = some used)
    (own : ∀ site charge, registry.ledger.get? site = some charge →
      (charge.domain = some domain ↔ mine site = true)) (target : DomainId) :
    ∃ left, (registry.perform (.resetCounters target)).bytes? domain = some left ∧
      left + (registry.ledger.filter fun site _ => mine site &&
        decide ((registry.perform (.resetCounters target)).held? site = none)).total
          Charge.bytes = used := by
  rw [perform_resetCounters]
  have dropped : ∀ site charge, registry.ledger.get? site = some charge →
      ((registry.forget target).held? site = none ↔ charge.domain = some target) := by
    intro site charge found
    simp [held?, Registry.forget, Assoc.get?_filter, found, Option.filter]
  split
  · next live =>
    by_cases same : domain = target
    · subst same
      refine ⟨0, by simp [bytes?_forget, counter], ?_⟩
      rw [Nat.zero_add, balanced.ofDomain domain used counter]
      apply Assoc.total_filter_eq
      intro entry inside
      have found := Assoc.get?_of_mem inside
      simp [domainShare, own entry.1 entry.2 found, dropped entry.1 entry.2 found]
    · refine ⟨used, by simp [bytes?_forget, counter, same], ?_⟩
      have nothing : (registry.ledger.filter fun site _ => mine site &&
          decide ((registry.forget target).held? site = none)).total Charge.bytes = 0 := by
        apply Assoc.total_eq_zero
        intro entry inside
        obtain ⟨present, both⟩ := List.mem_filter.1 inside
        have found := Assoc.get?_of_mem present
        simp only [Bool.and_eq_true, decide_eq_true_eq, dropped entry.1 entry.2 found,
          ← own entry.1 entry.2 found] at both
        exact absurd (Option.some.inj (both.1.symm.trans both.2)) same
      rw [nothing, Nat.add_zero]
  · refine ⟨used, counter, ?_⟩
    have nothing : (registry.ledger.filter fun site _ => mine site &&
        decide (registry.held? site = none)).total Charge.bytes = 0 := by
      apply Assoc.total_eq_zero
      intro entry inside
      obtain ⟨present, both⟩ := List.mem_filter.1 inside
      simp [held?, Assoc.get?_of_mem present] at both
    rw [nothing, Nat.add_zero]

/-- What is done at the site of a charge leaves other domains than the charge's alone. -/
theorem bytes?_of_foreign {charge : Charge} (found : registry.ledger.get? site = some charge)
    (foreign : charge.domain ≠ some domain) (named : operation.site? = some site) :
    (registry.perform operation).bytes? domain = registry.bytes? domain := by
  have credited : ∀ bytes, (registry.releasePartial site bytes).2.bytes? domain =
      registry.bytes? domain := by
    intro bytes
    rw [releasePartial_of_get? bytes found, bytes?_credit]
    simp only [foreign, if_false, Nat.sub_zero, Option.map_id']
    rfl
  cases operation with
  | charge thread bytes other =>
    cases named
    have home : (registry.entry thread site).domain ≠ some domain := by
      simpa [entry, Assoc.getD, found] using foreign
    change (registry.charge thread bytes site).bytes? domain = _
    rw [bytes?_charge]
    simp [home]
  | release other =>
    cases named
    change (registry.release site).2.bytes? domain = _
    rw [release_eq_releasePartial]
    exact credited _
  | releasePartial other bytes =>
    cases named
    exact credited bytes
  | _ => cases named

/-- A reset that drops a charge is one of the charge's domain and leaves other counters alone. -/
theorem bytes?_of_forgotten {charge : Charge} {target : DomainId}
    (found : registry.ledger.get? site = some charge) (foreign : charge.domain ≠ some domain)
    (dropped : (registry.perform (.resetCounters target)).held? site = none) :
    target ≠ domain ∧ (registry.perform (.resetCounters target)).bytes? domain =
      registry.bytes? domain := by
  rw [perform_resetCounters] at dropped ⊢
  split at dropped
  · have owner : charge.domain = some target := by
      simpa [held?, forget, Assoc.get?_filter, found, Option.filter] using dropped
    have apart : domain ≠ target := by
      rintro rfl
      exact foreign owner
    next live =>
    refine ⟨apart.symm, ?_⟩
    rw [if_pos live, bytes?_forget]
    simp [apart]
  · simp [held?, found] at dropped

/-- A thread that leaves counts for no other domain than the one it was in. -/
theorem threads?_releaseThread_of_apart {guest : ThreadId}
    (apart : registry.bindings.get? guest ≠ some domain) :
    (registry.perform (.releaseThread guest)).threads? domain = registry.threads? domain := by
  have left : (registry.leave guest).threads? domain = registry.threads? domain := by
    simp [threads?_leave, apart]
  have turn := registry.turn_perform (.releaseThread guest)
  generalize registry.perform (.releaseThread guest) = after at turn ⊢
  cases turn with
  | aside => rfl
  | left => exact left
  | ended bound =>
    rw [threads?_drop, if_neg, left]
    rintro rfl
    exact apart bound

end Steward.Domain.Registry
