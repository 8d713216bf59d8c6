import Steward.Proofs.Domain.Cap
import Steward.Proofs.Host.Vacancy

/-! The byte budget of domains. A request is checked against the budget of the domain that the
thread is in, but pages of a reservation that is charged already count against the domain of that
charge. A domain leaves its budget when a thread of another domain commits pages in its
reservations, and in no other way. -/

set_option autoImplicit false

namespace Steward.Host

open Memory

/-- Bytes are asked for before they are charged, and nobody is let past the budget. -/
def Act.budgeted : Act → Bool
  | heapAlloc _ _ _ level => level = .task
  | virtualAlloc _ _ _ kind _ level => !kind.commit || level = .task
  | act => !act.charges

theorem Act.charges_of_budgeted {act : Act} (budgeted : act.budgeted = true) :
    act.charges = false := by
  cases act with
  | heapAlloc _ _ _ _ => rfl
  | virtualAlloc _ _ _ _ _ _ => rfl
  | _ => simpa [Act.budgeted] using budgeted

/-- A thread is granted pages of a reservation whose charge belongs to a domain other than its own,
and they take that domain past its budget. -/
inductive Overdraws (host : Host) : Act → Prop where
  | commit {thread : ThreadId} {address size : Nat} {kind : AllocationKind}
      {protection : Protection} {level : CriticalLevel} {region : Region} {range : Nat × Nat}
      {charge : Domain.Charge} {domain : DomainId} {used : Nat} (asked : size ≠ 0)
      (commits : kind.commit = true) (found : host.space.regionAt? address = some region)
      (within : region.pageRange address size = .ok range)
      (missing : region.uncommittedBytes range ≠ 0)
      (granted : host.Grants thread (region.uncommittedBytes range) level)
      (charged : host.registry.ledger.get? (.address region.base) = some charge)
      (owner : charge.domain = some domain)
      (stranger : host.registry.bindings.get? thread ≠ some domain)
      (live : host.registry.bytes? domain = some used)
      (past : host.registry.limits.maxBytes < used + region.uncommittedBytes range) :
      Overdraws host (.virtualAlloc thread (some address) size kind protection level)

theorem exists_past_of_overdraws {host : Host} {act : Act} (overdraws : host.Overdraws act) :
    ∃ domain used, (host.perform act).registry.bytes? domain = some used ∧
      host.registry.limits.maxBytes < used := by
  cases overdraws with
  | @commit thread address size kind protection level region range charge domain used asked commits
      found within missing granted charged owner stranger live past =>
    have proper : ¬(size = 0 ∨ FlagSet.isEmpty kind = true) := by
      rintro (empty | empty)
      · exact asked empty
      · simp [FlagSet.isEmpty, FlagSet.members, commits] at empty
    -- Nothing is in the way of the request, and its bytes go where the reservation is charged.
    have granted := grant_of_grants granted
    have books := chargeAt_books
      { host with space := host.space.insert (region.commit range protection).2 } thread
      (region.commit range protection).1 region.base
    have result : (host.perform (.virtualAlloc thread (some address) size kind protection
        level)).registry = host.registry.charge thread (region.uncommittedBytes range)
          (.address region.base) := by
      simp only [perform, virtualAlloc, if_neg proper, found, commits, if_true, commitInPlace,
        within, if_neg missing, granted]
      rw [books.1, chargedAt]
      exact if_neg missing
    have home : (host.registry.entry thread (.address region.base)).domain = some domain := by
      simp [Domain.Registry.entry, Assoc.getD, charged, owner]
    refine ⟨domain, used + region.uncommittedBytes range, ?_, past⟩
    rw [result, Domain.Registry.bytes?_charge, live, Option.map_some, if_pos home]

/-- New reservations and new blocks start with charges of their own. -/
structure Ready (cap : Nat) (registry : Domain.Registry) (space : Space) (serial : Nat) : Prop
    extends Vacant (fun _ => False) registry space where
  limits : registry.limits.maxBytes = cap
  blocks : ∀ later, serial ≤ later → registry.held? (.block later) = none

theorem limits_shift {host : Host} {act : Act} {registry : Domain.Registry} {space : Space}
    {serial : Nat} (step : Shift host act registry space serial) :
    registry.limits = host.registry.limits := by
  obtain ⟨operation, turn, _⟩ := turn_shift step
  exact Domain.Registry.limits_turn turn

/-- The serial number of a block is charged once the block is taken, and not before. -/
theorem blocks_shift {host : Host} {act : Act} {registry : Domain.Registry} {space : Space}
    {serial : Nat} (step : Shift host act registry space serial) (quiet : act.charges = false)
    (blocks : ∀ later, host.nextSerial ≤ later → host.registry.held? (.block later) = none) :
    ∀ later, serial ≤ later → registry.held? (.block later) = none := by
  intro later behind
  cases step with
  | refused _ _ => exact blocks later behind
  | onDomains operation =>
    exact Domain.Registry.held?_none_turn (host.registry.turn_perform operation) (.inl quiet)
      (blocks later behind)
  | heapCreated _ => exact blocks later (Nat.le_of_succ_le behind)
  | blockTaken _ =>
    have apart : later ≠ host.nextSerial := by omega
    rw [Domain.Registry.held?_charge, if_neg (by simpa using apart)]
    exact blocks later (Nat.le_of_succ_le behind)
  | blockGiven _ =>
    rw [Domain.Registry.held?_release, blocks later behind]
    split <;> rfl
  | reserved _ _ _ => exact blocks later behind
  | committedAnew _ _ _ _ _ _ =>
    rw [held?_chargedAt _ _ _ (by simp)]
    exact blocks later behind
  | committedInPlace _ _ _ _ _ =>
    rw [held?_chargedAt _ _ _ (by simp)]
    exact blocks later behind
  | decommitted _ _ =>
    split
    · exact blocks later behind
    · rw [Domain.Registry.held?_releasePartial, if_neg (by simp)]
      exact blocks later behind
  | released _ =>
    rw [Domain.Registry.held?_release, if_neg (by simp)]
    exact blocks later behind
  | reprotected _ => exact blocks later behind
  | written _ => exact blocks later behind
  | mapped _ _ _ => cases quiet
  | unmapped _ =>
    rw [Domain.Registry.held?_release, if_neg (by simp)]
    exact blocks later behind

namespace Ready

variable {cap : Nat} {host : Host} {act : Act} {registry : Domain.Registry} {space : Space}
  {serial : Nat}

theorem initial {config : Config} {opened : String → Except Error Trace.Sink}
    (created : create config opened = .ok host) :
    Ready config.limits.maxBytes host.registry host.space host.nextSerial := by
  obtain ⟨registry, space, _⟩ := books_of_create created
  rw [registry, space]
  exact ⟨⟨.empty, fun _ _ _ => rfl⟩, rfl, fun _ _ => rfl⟩

theorem shift (step : Shift host act registry space serial)
    (ready : Ready cap host.registry host.space host.nextSerial) (word : act.inRange = true)
    (quiet : act.charges = false) : Ready cap registry space serial :=
  ⟨ready.toVacant.shift step word (.inl quiet), by rw [limits_shift step, ready.limits],
    blocks_shift step quiet ready.blocks⟩

theorem room (ready : Ready cap host.registry host.space host.nextSerial) (capped : cap ≠ 0)
    (small : cap < Word.top) {thread : ThreadId} {bytes used : Nat} {domain : DomainId}
    (granted : host.Grants thread bytes .task)
    (bound : host.registry.bindings.get? thread = some domain)
    (live : host.registry.bytes? domain = some used) : used + bytes ≤ cap := by
  have admitted := granted.resolve_left (by simp [CriticalLevel.bypassesBudget])
  rw [← ready.limits] at capped small ⊢
  exact Domain.Registry.le_of_not_overBudget admitted capped small bound live

/-- Bytes that are charged where nothing is go to the domain that granted them. -/
theorem charge (ready : Ready cap host.registry host.space host.nextSerial) (capped : cap ≠ 0)
    (small : cap < Word.top) (within : host.registry.Within cap) {thread : ThreadId}
    {asked bytes : Nat} {site : Domain.Site} (absent : host.registry.held? site = none)
    (granted : host.Grants thread asked .task) (covered : bytes ≤ asked) :
    (host.registry.charge thread bytes site).Within cap := by
  refine within.charge thread bytes site fun domain used home live => ?_
  rw [Domain.Registry.domain_entry_of_absent absent] at home
  have fits := ready.room capped small granted home live
  omega

/-- Pages of a reservation count against the domain that has its charge. -/
theorem commit (ready : Ready cap host.registry host.space host.nextSerial) (capped : cap ≠ 0)
    (small : cap < Word.top) (within : host.registry.Within cap) {thread : ThreadId}
    {address size : Nat} {kind : AllocationKind} {protection : Protection} {region : Region}
    {range : Nat × Nat} (asked : size ≠ 0) (commits : kind.commit = true)
    (found : host.space.regionAt? address = some region)
    (inside : region.pageRange address size = .ok range)
    (missing : region.uncommittedBytes range ≠ 0)
    (granted : host.Grants thread (region.uncommittedBytes range) .task)
    (honest : ¬host.Overdraws (.virtualAlloc thread (some address) size kind protection .task)) :
    (host.registry.charge thread (region.uncommittedBytes range)
      (.address region.base)).Within cap := by
  refine within.charge _ _ _ fun domain used home live => ?_
  by_cases own : host.registry.bindings.get? thread = some domain
  · exact ready.room capped small granted own live
  · cases charged : host.registry.ledger.get? (.address region.base) with
    | none =>
      -- A charge that is not there yet would belong to the thread's own domain.
      have absent := (host.registry.held?_eq_none_iff).2 charged
      rw [Domain.Registry.domain_entry_of_absent absent] at home
      exact absurd home own
    | some charge =>
      have owner : charge.domain = some domain := by
        simpa [Domain.Registry.entry, Assoc.getD, charged] using home
      -- The domain of the thread said yes, but the bytes go to another: only honesty leaves room.
      refine Nat.le_of_not_lt fun past => honest ?_
      rw [← ready.limits] at past
      exact .commit asked commits found inside missing granted charged owner own live past

/-- Domains stay within the budget in every act that does not overdraw. -/
theorem within_shift (step : Shift host act registry space serial)
    (ready : Ready cap host.registry host.space host.nextSerial) (capped : cap ≠ 0)
    (small : cap < Word.top) (word : act.inRange = true) (budgeted : act.budgeted = true)
    (honest : ¬host.Overdraws act) (within : host.registry.Within cap) :
    registry.Within cap := by
  cases step with
  | refused _ _ => exact within
  | onDomains operation =>
    exact within.turn (host.registry.turn_perform operation) (Act.charges_of_budgeted budgeted)
  | heapCreated _ => exact within
  | blockTaken granted =>
    obtain rfl := of_decide_eq_true budgeted
    have absent := ready.blocks host.nextSerial (Nat.le_refl _)
    exact ready.charge capped small within absent granted (Nat.le_refl _)
  | blockGiven _ => exact within.release _
  | reserved _ _ _ => exact within
  | @committedAnew thread wanted size base kind protection level other region range asked placed
      new commits granted _ =>
    obtain rfl : level = .task := by simpa [Act.budgeted, commits] using budgeted
    unfold chargedAt
    split
    · exact within
    · obtain ⟨_, nothing⟩ := ready.toVacant.place asked word placed
      have covered := region.uncommittedBytes_le_size range
      rw [new, Region.size_reserve, pageCeil_pageCeil, ← new] at covered
      exact ready.charge capped small within (nothing id) granted covered
  | @committedInPlace thread address size kind protection level region range asked found commits
      inside granted =>
    obtain rfl : level = .task := by simpa [Act.budgeted, commits] using budgeted
    unfold chargedAt
    split
    · exact within
    · next missing =>
      exact ready.commit capped small within asked commits found inside missing
        (granted.resolve_left missing) honest
  | decommitted _ _ =>
    split
    · exact within
    · exact within.releasePartial _ _
  | released _ => exact within.release _
  | reprotected _ => exact within
  | written _ => exact within
  | mapped _ _ _ => cases budgeted
  | unmapped _ => exact within.release _

end Ready

/-- The budget holds in every state of a run from a new host exactly if no act of the run overdraws.
A budget of the largest word is kept as long as the counters are words. -/
theorem within_budget_iff {config : Config} {opened : String → Except Error Trace.Sink}
    {start : Host} (created : create config opened = .ok start)
    (capped : config.limits.maxBytes ≠ 0) (acts : List Act)
    (words : ∀ act ∈ acts, act.inRange = true) (budgeted : ∀ act ∈ acts, act.budgeted = true)
    (counters : Word.top ≤ config.limits.maxBytes → ∀ count ≤ acts.length,
      (start.run (acts.take count)).registry.Within Word.top) :
    (∀ count ≤ acts.length,
      (start.run (acts.take count)).registry.Within config.limits.maxBytes) ↔
    ∀ count act, acts[count]? = some act → ¬(start.run (acts.take count)).Overdraws act := by
  have ready : ∀ count, Ready config.limits.maxBytes (start.run (acts.take count)).registry
      (start.run (acts.take count)).space (start.run (acts.take count)).nextSerial := by
    refine @run_induction (fun host => Ready config.limits.maxBytes host.registry host.space
      host.nextSerial) start acts (.initial created) fun count act next before => ?_
    have inside := List.mem_of_getElem? next
    rw [run_take_succ start next]
    exact before.shift (shift_perform _ act) (words act inside)
      (Act.charges_of_budgeted (budgeted act inside))
  constructor
  · intro kept count act next overdraws
    obtain ⟨bound, _⟩ := List.getElem?_eq_some_iff.1 next
    -- The state right behind the overdraft is the one that is past the budget.
    obtain ⟨domain, used, now, past⟩ := exists_past_of_overdraws overdraws
    rw [← run_take_succ start next] at now
    rw [(ready count).limits] at past
    exact absurd (kept (count + 1) bound domain used now) (Nat.not_le_of_lt past)
  · intro honest count bound
    by_cases small : config.limits.maxBytes < Word.top
    · have initial : start.registry.Within config.limits.maxBytes := by
        rw [(books_of_create created).1]
        intro domain used now
        cases now
      refine @run_induction (fun host => host.registry.Within config.limits.maxBytes) start acts
        initial (fun count act next before => ?_) count
      have inside := List.mem_of_getElem? next
      rw [run_take_succ start next]
      exact (ready count).within_shift (shift_perform _ act) capped small (words act inside)
        (budgeted act inside) (honest count act next) before
    · -- Sums stop at the largest word, so that nobody is denied; but no word is past it.
      intro domain used now
      have large := Nat.le_of_not_lt small
      exact Nat.le_trans (counters large count bound domain used now) large

/-- Two domains in one reservation, each within its budget of two pages; then the second one commits
a page that counts against the first. -/
def sharedBudget : List Act :=
  [.onDomains (.create ⟨1⟩ ⟨1⟩ "first"), .onDomains (.create ⟨2⟩ ⟨2⟩ "second"),
    .virtualAlloc ⟨1⟩ none 65536 ⟨false, true⟩ .readWrite .task,
    .virtualAlloc ⟨1⟩ (some 0x10000000) 8192 ⟨true, false⟩ .readWrite .task,
    .virtualAlloc ⟨2⟩ (some 0x10002000) 4096 ⟨true, false⟩ .readWrite .task]

theorem within_budget_iff_sharedBudget :
    ∃ start, create { limits := ⟨0, 8192⟩ } (fun _ => .ok (.memory 0 [])) = .ok start ∧
      ((∀ count ≤ sharedBudget.length,
        (start.run (sharedBudget.take count)).registry.Within 8192) ↔
      ∀ count act, sharedBudget[count]? = some act →
        ¬(start.run (sharedBudget.take count)).Overdraws act) :=
  ⟨_, rfl, @within_budget_iff { limits := ⟨0, 8192⟩ } (fun _ => .ok (.memory 0 [])) _ rfl
    (by decide) sharedBudget (by decide) (by decide) (fun large => absurd large (by decide))⟩

/-- Asking for every byte does not keep the budget. -/
theorem not_within_sharedBudget :
    ∃ start, create { limits := ⟨0, 8192⟩ } (fun _ => .ok (.memory 0 [])) = .ok start ∧
      (∀ act ∈ sharedBudget, act.inRange = true ∧ act.budgeted = true) ∧
      ¬(start.run sharedBudget).registry.Within 8192 := by
  refine ⟨_, rfl, by decide, fun within => ?_⟩
  have less := within ⟨1⟩ 12288 (by decide)
  omega

end Steward.Host
