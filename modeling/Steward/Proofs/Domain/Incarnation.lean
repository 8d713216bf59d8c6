import Steward.Proofs.Domain.Belonging

/-! A domain whose number was in use before starts clean. A charge belongs to the new domain exactly
if a thread of the new domain opened it, so that nothing which is left of the old one reaches its
counters, and its byte counter is what was charged there less what was returned or forgotten. -/

set_option autoImplicit false

namespace Steward.Domain.Registry

section History

variable (start : Registry) (operations : List Operation)

/-- The place of the operation that opened the charge that is at a site now. -/
def opened? (site : Site) : Nat → Option Nat
  | 0 => none
  | count + 1 =>
      if (start.reached operations (count + 1)).held? site = none then none
      else if (start.reached operations count).held? site = none then some count
      else opened? site count

variable (domain : DomainId)

/-- The operation at a place charges a thread that is in the domain. -/
def chargesIn (place : Nat) : Bool :=
  match operations[place]? with
  | some (.charge thread _ _) =>
      decide ((start.reached operations place).bindings.get? thread = some domain)
  | _ => false

variable (created : Nat)

/-- The charge at a site was opened by a thread of the domain that was created at a place. -/
def owns (count : Nat) (site : Site) : Bool :=
  (start.opened? operations site count).any fun place =>
    decide (created < place) && start.chargesIn operations domain place

/-- What the charges that a domain's threads opened hold. -/
def ownBytes (count : Nat) : Nat :=
  ((start.reached operations count).ledger.filter fun site _ =>
    start.owns operations domain created count site).total Charge.bytes

/-- What was ever charged there. -/
def charged : Nat → Nat
  | 0 => 0
  | count + 1 => charged count +
      match operations[count]? with
      | some (.charge _ bytes site) =>
          if start.owns operations domain created (count + 1) site then bytes else 0
      | _ => 0

/-- What was ever released of them, all at once or in parts. -/
def returned : Nat → Nat
  | 0 => 0
  | count + 1 => returned count +
      match operations[count]? with
      | some (.release site) =>
          if start.owns operations domain created count site then
            ((start.reached operations count).release site).1
          else 0
      | some (.releasePartial site bytes) =>
          if start.owns operations domain created count site then
            ((start.reached operations count).releasePartial site bytes).1
          else 0
      | _ => 0

/-- What they held when a reset dropped them. -/
def forgotten : Nat → Nat
  | 0 => 0
  | count + 1 => forgotten count +
      match operations[count]? with
      | some (.resetCounters _) =>
          ((start.reached operations count).ledger.filter fun site _ =>
            start.owns operations domain created count site &&
              decide ((start.reached operations (count + 1)).held? site = none)).total Charge.bytes
      | _ => 0

end History

/-! ### Runs -/

variable {domain : DomainId} {site : Site} {start : Registry} {operations : List Operation}
  {created count : Nat}

theorem opened?_lt {place : Nat} (opened : start.opened? operations site count = some place) :
    place < count := by
  induction count with
  | zero => cases opened
  | succ count ih =>
    rw [opened?] at opened
    split at opened
    · cases opened
    · split at opened
      · cases opened
        exact Nat.lt_succ_self _
      · exact Nat.lt_succ_of_lt (ih opened)

/-- Nothing is owned before there was time to open a charge. -/
theorem owns_early (early : count ≤ created + 1) :
    start.owns operations domain created count site = false := by
  rw [owns, Option.any_eq_false]
  intro place opened
  have before := opened?_lt opened
  have notLater : ¬created < place := by omega
  simp [notLater]

theorem owns_of_new (before : (start.reached operations count).held? site = none)
    (now : (start.reached operations (count + 1)).held? site ≠ none) :
    start.owns operations domain created (count + 1) site =
      (decide (created < count) && start.chargesIn operations domain count) := by
  simp [owns, opened?, before, now]

theorem owns_of_kept (before : (start.reached operations count).held? site ≠ none)
    (now : (start.reached operations (count + 1)).held? site ≠ none) :
    start.owns operations domain created (count + 1) site =
      start.owns operations domain created count site := by
  simp [owns, opened?, before, now]

theorem tallies_early (early : count ≤ created + 1) :
    start.charged operations domain created count = 0 ∧
      start.returned operations domain created count = 0 ∧
      start.forgotten operations domain created count = 0 := by
  induction count with
  | zero => exact ⟨rfl, rfl, rfl⟩
  | succ count ih =>
    obtain ⟨charged, returned, forgotten⟩ := ih (Nat.le_of_succ_le early)
    have nobody : ∀ site, start.owns operations domain created count site = false :=
      fun site => owns_early (Nat.le_of_succ_le early)
    have still : ∀ site, start.owns operations domain created (count + 1) site = false :=
      fun site => owns_early early
    refine ⟨?_, ?_, ?_⟩
    · rw [Registry.charged, charged]
      split <;> simp [still]
    · rw [Registry.returned, returned]
      split <;> simp [nobody]
    · rw [Registry.forgotten, forgotten]
      split
      · rw [Nat.zero_add]
        refine Assoc.total_eq_zero _ fun entry inside => ?_
        simpa [nobody] using (List.mem_filter.1 inside).2
      · rfl

theorem reached_created {thread : ThreadId} {manager : String}
    (here : operations[created]? = some (.create domain thread manager))
    (fresh : (start.reached operations created).domains.contains domain = false) :
    start.reached operations (created + 1) =
      (start.reached operations created).found domain thread manager := by
  have absent : (start.reached operations created).domains.get? domain = none := by
    simpa [Assoc.contains] using fresh
  rw [reached_succ start here]
  simp [perform, create, Assoc.contains, absent, orElse, found]

/-- The domain that was created at a place counts the charges that its threads opened, and only
those. -/
structure Clean (start : Registry) (operations : List Operation) (domain : DomainId)
    (created count : Nat) : Prop where
  own : ∀ site charge, (start.reached operations count).ledger.get? site = some charge →
    (charge.domain = some domain ↔ start.owns operations domain created count site = true)
  tallied : ∀ used, (start.reached operations count).bytes? domain = some used →
    used + start.returned operations domain created count +
      start.forgotten operations domain created count =
        start.charged operations domain created count

namespace Clean

theorem founded (balanced : (start.reached operations created).Balanced) {thread : ThreadId}
    {manager : String} (here : operations[created]? = some (.create domain thread manager))
    (fresh : (start.reached operations created).domains.contains domain = false) :
    Clean start operations domain created (created + 1) := by
  constructor
  · intro site charge found
    rw [reached_created here fresh] at found
    rw [owns_early (Nat.le_refl _)]
    refine ⟨fun owner => ?_, fun owner => by cases owner⟩
    have live := balanced.live site charge domain found owner
    rw [fresh] at live
    cases live
  · intro used counter
    rw [reached_created here fresh, bytes?_found, if_pos rfl] at counter
    cases counter
    obtain ⟨charged, returned, forgotten⟩ :
        start.charged operations domain created (created + 1) = 0 ∧
          start.returned operations domain created (created + 1) = 0 ∧
          start.forgotten operations domain created (created + 1) = 0 :=
      tallies_early (Nat.le_refl _)
    rw [charged, returned, forgotten]

theorem own_succ (clean : Clean start operations domain created count)
    {operation : Operation} (here : operations[count]? = some operation)
    (later : created < count)
    (lives : (start.reached operations (count + 1)).domains.contains domain = true) {new : Charge}
    (now : (start.reached operations (count + 1)).ledger.get? site = some new) :
    new.domain = some domain ↔ start.owns operations domain created (count + 1) site = true := by
  have held : (start.reached operations (count + 1)).held? site ≠ none := by simp [held?, now]
  have turn := (start.reached operations count).turn_perform operation
  rw [← reached_succ start here] at turn
  cases before : (start.reached operations count).ledger.get? site with
  | none =>
    obtain ⟨thread, bytes, rfl, home⟩ := turn.entry_new before now
    rw [owns_of_new (by simp [held?, before]) held, home]
    simp [chargesIn, here, later]
  | some old =>
    rw [owns_of_kept (by simp [held?, before]) held, ← clean.own site old before]
    obtain same | ⟨detached, gone, owner, ended⟩ := turn.entry_kept before now
    · rw [same]
    · -- A charge is detached from a domain that ended, which is not the one that lives.
      rw [detached, owner]
      refine ⟨fun never => by simp at never, fun same => ?_⟩
      cases Option.some.inj same
      rw [lives] at ended
      cases ended

theorem tallied_succ (clean : Clean start operations domain created count)
    (balanced : (start.reached operations count).Balanced)
    {operation : Operation} (here : operations[count]? = some operation)
    (live : (start.reached operations count).domains.contains domain = true)
    (own : ∀ site charge, (start.reached operations (count + 1)).ledger.get? site = some charge →
      (charge.domain = some domain ↔
        start.owns operations domain created (count + 1) site = true)) {used : Nat}
    (now : (start.reached operations (count + 1)).bytes? domain = some used) :
    used + start.returned operations domain created (count + 1) +
      start.forgotten operations domain created (count + 1) =
        start.charged operations domain created (count + 1) := by
  have counted := live
  rw [← isSome_bytes?] at counted
  obtain ⟨before, counter⟩ := Option.isSome_iff_exists.1 counted
  have sum := clean.tallied before counter
  have next := reached_succ start here
  have turn := (start.reached operations count).turn_perform operation
  simp only [Registry.charged, Registry.returned, Registry.forgotten, here]
  cases operation with
  | charge thread bytes site =>
    have mine := own site
    rw [next] at now mine
    have grown := bytes?_charge_own counter mine
    cases Option.some.inj (now.symm.trans grown)
    simp only
    omega
  | release site =>
    obtain ⟨left, shrunk, less⟩ := balanced.bytes?_releasePartial_own counter (clean.own site)
      ((((start.reached operations count).ledger.get? site).map Charge.bytes).getD 0)
    rw [← release_eq_releasePartial] at shrunk less
    rw [next] at now
    cases Option.some.inj (now.symm.trans shrunk)
    simp only
    omega
  | releasePartial site bytes =>
    obtain ⟨left, shrunk, less⟩ :=
      balanced.bytes?_releasePartial_own counter (clean.own site) bytes
    rw [next] at now
    cases Option.some.inj (now.symm.trans shrunk)
    simp only
    omega
  | resetCounters target =>
    obtain ⟨left, shrunk, less⟩ := balanced.bytes?_resetCounters_own counter clean.own target
    rw [next] at now ⊢
    cases Option.some.inj (now.symm.trans shrunk)
    simp only
    omega
  | _ =>
    have lives : (start.reached operations (count + 1)).domains.contains domain = true := by
      rw [← isSome_bytes?, now]
      rfl
    rw [next] at now lives
    rw [turn.bytes?_of_aloof rfl (fun _ => Operation.noConfusion) live lives, counter] at now
    cases now
    simpa using sum

end Clean

/-- Between a moment where a domain is live and one where it is not, it was removed. -/
theorem exists_removal {early late : Nat} (order : early ≤ late)
    (live : (start.reached operations early).domains.contains domain = true)
    (gone : (start.reached operations late).domains.contains domain = false) :
    ∃ removed, early ≤ removed ∧ removed < late ∧ (operations[removed]? = some (.unload domain) ∨
      ∃ main, operations[removed]? = some (.releaseThread main) ∧
        (start.reached operations removed).main? domain = some main) := by
  induction late, order using Nat.le_induction with
  | base =>
    rw [live] at gone
    cases gone
  | succ late order ih =>
    cases still : (start.reached operations late).domains.contains domain with
    | false =>
      obtain ⟨removed, after, before, how⟩ := ih still
      exact ⟨removed, after, Nat.lt_succ_of_lt before, how⟩
    | true =>
      cases here : operations[late]? with
      | none =>
        rw [reached_ended start here, still] at gone
        cases gone
      | some operation =>
        rw [reached_succ start here] at gone
        refine ⟨late, order, Nat.lt_succ_self late, ?_⟩
        obtain rfl | ⟨main, rfl, led, _⟩ := (turn_perform _ operation).ends still gone
        · exact .inl here
        · exact .inr ⟨main, here, led⟩

theorem held_of_opened {place : Nat}
    (opened : start.opened? operations site count = some place) :
    ∃ charge, (start.reached operations count).ledger.get? site = some charge := by
  cases count with
  | zero => cases opened
  | succ count =>
    rw [opened?] at opened
    split at opened
    · cases opened
    · next held =>
      rw [held?_eq_none_iff] at held
      exact Option.ne_none_iff_exists'.1 held

/-- Whoever is in the domain was brought there since it was created. -/
theorem exists_brings (counted : (start.reached operations created).Counted)
    (fresh : (start.reached operations created).domains.contains domain = false)
    (later : created ≤ count) {guest : ThreadId}
    (bound : (start.reached operations count).bindings.get? guest = some domain) :
    ∃ place operation, created ≤ place ∧ place < count ∧ operations[place]? = some operation ∧
      (start.reached operations place).Brings operation guest domain := by
  induction count, later using Nat.le_induction with
  | base =>
    have live := counted.live guest domain bound
    rw [fresh] at live
    cases live
  | succ count later ih =>
    have before : (start.reached operations count).bindings.get? guest = some domain →
        ∃ place operation, created ≤ place ∧ place < count + 1 ∧
          operations[place]? = some operation ∧
          (start.reached operations place).Brings operation guest domain := by
      intro there
      obtain ⟨place, operation, after, early, here, brings⟩ := ih there
      exact ⟨place, operation, after, Nat.lt_succ_of_lt early, here, brings⟩
    cases here : operations[count]? with
    | none =>
      rw [reached_ended start here] at bound
      exact before bound
    | some operation =>
      rw [reached_succ start here] at bound
      obtain there | brings := (turn_perform _ operation).brings bound
      · exact before there
      · exact ⟨count, operation, later, Nat.lt_succ_self count, here, brings⟩

theorem clean_of_run (balanced : ∀ count, (start.reached operations count).Balanced)
    {thread : ThreadId} {manager : String}
    (here : operations[created]? = some (.create domain thread manager))
    (fresh : (start.reached operations created).domains.contains domain = false)
    (later : created < count) (inside : count ≤ operations.length)
    (lives : ∀ moment ≤ count, created < moment →
      (start.reached operations moment).domains.contains domain = true) :
    Clean start operations domain created count := by
  induction count, later using Nat.le_induction with
  | base => exact .founded (balanced created) here fresh
  | succ count later ih =>
    have clean := ih (Nat.le_of_succ_le inside) fun moment early =>
      lives moment (Nat.le_succ_of_le early)
    have now := List.getElem?_eq_getElem inside
    have own : ∀ site charge,
        (start.reached operations (count + 1)).ledger.get? site = some charge →
        (charge.domain = some domain ↔
          start.owns operations domain created (count + 1) site = true) := fun _ _ =>
      clean.own_succ now later (lives (count + 1) (Nat.le_refl _) (Nat.lt_succ_of_lt later))
    have live := lives count (Nat.le_succ count) later
    exact ⟨own, fun used => clean.tallied_succ (balanced count) now live own⟩

/-- What a domain has to do with the time before it was created, and with other domains' charges:
nothing. -/
structure StartsClean (start : Registry) (operations : List Operation) (domain : DomainId)
    (thread : ThreadId) (created count : Nat) : Prop where
  /-- An earlier domain of the same number was removed, in one of two ways. -/
  removed : ∀ earlier < created,
    (start.reached operations earlier).domains.contains domain = true →
    ∃ removed, earlier ≤ removed ∧ removed < created ∧
      (operations[removed]? = some (.unload domain) ∨
        ∃ main, operations[removed]? = some (.releaseThread main) ∧
          (start.reached operations removed).main? domain = some main)
  founded : (start.reached operations (created + 1)).bytes? domain = some 0 ∧
    (start.reached operations (created + 1)).threads? domain = some 1 ∧
    ∀ guest, (start.reached operations (created + 1)).bindings.get? guest = some domain ↔
      guest = thread
  /-- A charge from the time before may be released, in parts or whole, and may grow. -/
  oldCharges : ∀ site place, start.opened? operations site count = some place → place < created →
    ∀ operation : Operation, operation.site? = some site →
      ((start.reached operations count).perform operation).bytes? domain =
        (start.reached operations count).bytes? domain
  /-- A reset that drops a charge from the time before is the reset of another domain. -/
  oldResets : ∀ site place, start.opened? operations site count = some place → place < created →
    ∀ target,
      ((start.reached operations count).perform (.resetCounters target)).held? site = none →
      target ≠ domain ∧
        ((start.reached operations count).perform (.resetCounters target)).bytes? domain =
          (start.reached operations count).bytes? domain
  /-- Only who was brought into the new domain counts there when leaving. -/
  oldThreads : ∀ guest, (∀ place operation, created ≤ place → place < count →
      operations[place]? = some operation →
      ¬(start.reached operations place).Brings operation guest domain) →
    ((start.reached operations count).perform (.releaseThread guest)).threads? domain =
      (start.reached operations count).threads? domain
  /-- The counter is what its threads' charges hold: all they were charged, less all that was
  released of them or forgotten. -/
  counter : ∃ used, (start.reached operations count).bytes? domain = some used ∧
    used = start.ownBytes operations domain created count ∧
    used + start.returned operations domain created count +
      start.forgotten operations domain created count =
        start.charged operations domain created count

/-- In a run from an empty register, a domain that was created and is live since starts clean,
whatever domain had its number before. Its bytes are counted exactly, as its counter does while the
sums of charged bytes are words. -/
theorem starts_clean (limits : Limits) (events : EventQueue) (operations : List Operation)
    {domain : DomainId} {thread : ThreadId} {manager : String} {created count : Nat}
    (here : operations[created]? = some (.create domain thread manager))
    (fresh : (reached { limits, events } operations created).domains.contains domain = false)
    (later : created < count) (inside : count ≤ operations.length)
    (lives : ∀ moment ≤ count, created < moment →
      (reached { limits, events } operations moment).domains.contains domain = true) :
    StartsClean { limits, events } operations domain thread created count := by
  let start : Registry := { limits, events }
  have balanced : ∀ count, (start.reached operations count).Balanced :=
    fun count => Balanced.run limits events (operations.take count)
  have counted : ∀ count, (start.reached operations count).Counted :=
    fun count => Counted.run limits events (operations.take count)
  have clean := clean_of_run balanced here fresh later inside lives
  -- A charge from the time before is nobody's of the new domain.
  have foreign : ∀ site place charge, start.opened? operations site count = some place →
      place < created → (start.reached operations count).ledger.get? site = some charge →
      charge.domain ≠ some domain := by
    intro site place charge opened early found owner
    have mine := (clean.own site charge found).1 owner
    rw [owns, opened, Option.any_some, Bool.and_eq_true, decide_eq_true_eq] at mine
    omega
  constructor
  · intro earlier early live
    exact exists_removal (Nat.le_of_lt early) live fresh
  · rw [reached_created here fresh]
    refine ⟨by simp [bytes?_found], by simp [threads?_found], fun guest => ?_⟩
    rw [found, Assoc.get?_insert]
    refine ⟨fun bound => ?_, fun same => by simp [same]⟩
    split at bound
    · next same => exact same
    · have live := (counted created).live guest domain bound
      rw [fresh] at live
      cases live
  · intro site place opened early operation named
    obtain ⟨charge, found⟩ := held_of_opened opened
    exact bytes?_of_foreign found (foreign site place charge opened early found) named
  · intro site place opened early target dropped
    obtain ⟨charge, found⟩ := held_of_opened opened
    exact bytes?_of_forgotten found (foreign site place charge opened early found) dropped
  · intro guest never
    apply threads?_releaseThread_of_apart
    intro bound
    obtain ⟨place, operation, after, before, at_, brings⟩ :=
      exists_brings (counted created) fresh (Nat.le_of_lt later) bound
    exact never place operation after before at_ brings
  · obtain ⟨used, counter⟩ := Option.isSome_iff_exists.1
      ((isSome_bytes? _ _).trans (lives count (Nat.le_refl count) later))
    refine ⟨used, counter, ?_, clean.tallied used counter⟩
    rw [(balanced count).ofDomain domain used counter, ownBytes]
    refine (Assoc.total_filter_eq _ _ _ _ fun entry inside => ?_).symm
    have own := clean.own entry.1 entry.2 (Assoc.get?_of_mem inside)
    simp [domainShare, own, start]

/-- A domain ends with its main thread and leaves a charge behind. Its number is used again; the old
charge grows and is released, and part of a new one is released, too. -/
def reusedNumber : List Operation :=
  [.create ⟨1⟩ ⟨1⟩ "old", .acquireThread ⟨1⟩ ⟨2⟩, .charge ⟨2⟩ 100 (.address 0x1000),
    .releaseThread ⟨1⟩, .create ⟨1⟩ ⟨3⟩ "new", .charge ⟨3⟩ 50 (.address 0x2000),
    .charge ⟨3⟩ 10 (.address 0x1000), .releasePartial (.address 0x2000) 20,
    .release (.address 0x1000)]

theorem starts_clean_reusedNumber :
    StartsClean { limits := {}, events := {} } reusedNumber ⟨1⟩ ⟨3⟩ 4 9 ∧
      (reached { limits := {}, events := {} } reusedNumber 9).bytes? ⟨1⟩ = some 30 :=
  ⟨starts_clean {} {} reusedNumber
    (show reusedNumber[4]? = some (.create ⟨1⟩ ⟨3⟩ "new") from rfl) (by decide) (by decide)
    (by decide) (by decide), by decide⟩

end Steward.Domain.Registry
