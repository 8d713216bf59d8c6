import Steward.Proofs.Host.Bill

/-! Whether a reset forgets for good. The counter of a domain is the bytes that it is billed for as
long as nobody gives up pages from before a reset together with the charge of pages from after it.
The ledger has one entry for a reservation, which does not tell the two apart. -/

set_option autoImplicit false

namespace Steward.Host

open Memory

/-- Memory is given back or given up. -/
def Act.frees : Act → Bool
  | heapFree _ | virtualFree .. => true
  | _ => false

/-- While a domain is live, its counter is the bytes of the blocks and pages that were charged to it
since its last reset and are still there; and whatever else is freed leaves the counter alone. -/
structure ForgetsForGood (start : Host) (acts : List Act) (domain : DomainId) : Prop where
  exact : ∀ count ≤ acts.length, ∀ used,
    (start.run (acts.take count)).registry.bytes? domain = some used →
    used = (start.run (acts.take count)).billedBytes (start.billAt acts domain count)
  spares : ∀ count act, acts[count]? = some act → act.frees = true →
    (∀ piece, start.billAt acts domain count piece = true →
      ((start.run (acts.take count)).perform act).holds piece = true) →
    ((start.run (acts.take count)).perform act).registry.bytes? domain =
      (start.run (acts.take count)).registry.bytes? domain

section
variable {host : Host} {act : Act} {domain : DomainId} {bill : Piece → Bool}

theorem Settled.clear (settled : host.Settled domain bill) {region : Region}
    (present : region ∈ host.space.regions)
    (unbilled : ∀ index, bill (.page region.base index) = false) :
    host.registry.dues domain (.address region.base) = 0 := by
  rw [settled.pages region present, Nat.mul_eq_zero]
  exact .inl (List.countP_eq_zero.2 fun index _ => by simp [unbilled])

theorem Settled.spares_heapFree (settled : host.Settled domain bill) {serial : Nat}
    (stays : ∀ piece, bill piece = true → (host.perform (.heapFree serial)).holds piece = true) :
    (host.perform (.heapFree serial)).registry.bytes? domain = host.registry.bytes? domain := by
  cases found : host.blocks.get? serial with
  | none => simp [Host.perform, heapFree, found]
  | some block =>
    have unbilled : bill (.block serial) = false := by
      refine Bool.eq_false_iff.2 fun billed => ?_
      have held := stays _ billed
      simp [holds, Host.perform, heapFree, found, Assoc.contains] at held
    have nothing := settled.blocks serial block found
    rw [unbilled] at nothing
    simp only [Host.perform, heapFree, found]
    exact Domain.Registry.bytes?_release_of_clear nothing

theorem Settled.spares_release (settled : host.Settled domain bill) {address size : Nat}
    (stays : ∀ piece, bill piece = true →
      (host.perform (.virtualFree address size .release)).holds piece = true) :
    (host.perform (.virtualFree address size .release)).registry.bytes? domain =
      host.registry.bytes? domain := by
  simp only [Host.perform, virtualFree] at stays ⊢
  split
  · rfl
  · next unsized =>
    split
    · next there =>
      obtain ⟨region, present, rfl⟩ := Space.hasBase_iff.1 there
      refine Domain.Registry.bytes?_release_of_clear (settled.clear present fun index => ?_)
      refine Bool.eq_false_iff.2 fun billed => ?_
      have held := stays _ billed
      simp [unsized, there, holds, Space.commits_remove] at held
    · rfl

theorem Settled.spares_decommit (settled : host.Settled domain bill) {address size : Nat}
    (honest : ¬host.Mixes bill (.virtualFree address size .decommit))
    (stays : ∀ piece, bill piece = true →
      (host.perform (.virtualFree address size .decommit)).holds piece = true) :
    (host.perform (.virtualFree address size .decommit)).registry.bytes? domain =
      host.registry.bytes? domain := by
  cases found : host.space.region address with
  | error error => simp [Host.perform, virtualFree, found]
  | ok region =>
    cases within : region.pageRange address size with
    | error error => simp [Host.perform, virtualFree, found, within]
    | ok range =>
      obtain ⟨result, space⟩ := perform_decommit found within
      rw [result]
      split
      · rfl
      · next some =>
        -- Billed pages stay, so that none of them is in the range, while some page is.
        have outside : ∀ index, bill (.page region.base index) = true →
            covers range index = false := by
          refine fun index billed => Bool.eq_false_iff.2 fun inside => ?_
          have held := stays _ billed
          rw [holds, space, Space.commits_insert] at held
          simp [Region.commits_decommit, inside] at held
        rw [Region.decommit_fst, Nat.mul_eq_zero, not_or] at some
        obtain ⟨loose, _, given⟩ := List.countP_pos_iff.1 (Nat.pos_of_ne_zero some.1)
        rw [Bool.and_eq_true] at given
        refine Domain.Registry.bytes?_releasePartial_of_clear
          (settled.clear (Space.mem_of_region found) fun index => ?_) _
        refine Bool.eq_false_iff.2 fun billed => honest ?_
        have unbilled : bill (.page region.base loose) = false := by
          refine Bool.eq_false_iff.2 fun mine => ?_
          rw [outside loose mine] at given
          exact absurd given.1 Bool.false_ne_true
        exact .decommit found within given.1 given.2 unbilled (outside index billed) billed

/-- An act that does not mix spares the counter of a domain unless it frees what the domain is
billed for. -/
theorem Settled.spares (settled : host.Settled domain bill) (honest : ¬host.Mixes bill act)
    (frees : act.frees = true)
    (stays : ∀ piece, bill piece = true → (host.perform act).holds piece = true) :
    (host.perform act).registry.bytes? domain = host.registry.bytes? domain := by
  cases act with
  | heapFree serial => exact settled.spares_heapFree stays
  | virtualFree address size kind =>
    cases kind with
    | decommit => exact settled.spares_decommit honest stays
    | release => exact settled.spares_release stays
  | _ => cases frees

end

/-! ### Runs -/

section
variable {config : Config} {opened : String → Except Error Trace.Sink} {start : Host}
  {acts : List Act} {domain : DomainId}

theorem billAt_succ {count : Nat} {act : Act} (next : acts[count]? = some act) :
    start.billAt acts domain (count + 1) =
      (start.run (acts.take count)).rebill domain act (start.billAt acts domain count) := by
  rw [billAt, next]

theorem tidy_run (created : create config opened = .ok start)
    (words : ∀ act ∈ acts, act.inRange = true) (aloof : ∀ act ∈ acts, act.isAloof = true)
    (count : Nat) : (start.run (acts.take count)).Tidy := by
  refine run_induction (.create created) (fun count act next before => ?_) count
  have inside := List.mem_of_getElem? next
  rw [run_take_succ start next]
  exact before.perform (words act inside) (aloof act inside)

/-- As long as no act mixes, what is owed is what is billed. -/
theorem settled_run (created : create config opened = .ok start)
    (words : ∀ act ∈ acts, act.inRange = true) (aloof : ∀ act ∈ acts, act.isAloof = true)
    (honest : ∀ count act, acts[count]? = some act →
      (start.run (acts.take count)).Settled domain (start.billAt acts domain count) →
      ¬(start.run (acts.take count)).Mixes (start.billAt acts domain count) act)
    {count : Nat} (bound : count ≤ acts.length) :
    (start.run (acts.take count)).Settled domain (start.billAt acts domain count) := by
  induction count with
  | zero =>
    refine .of_nothing (fun site => ?_) fun _ => rfl
    obtain ⟨registry, _⟩ := books_of_create created
    rw [List.take_zero, run, List.foldl_nil, registry]
    rfl
  | succ count ih =>
    have next : acts[count]? = some acts[count] := List.getElem?_eq_getElem bound
    have inside := List.getElem_mem bound
    have before := ih (Nat.le_of_succ_le bound)
    rw [run_take_succ start next, billAt_succ next]
    exact before.perform (tidy_run created words aloof count) (words _ inside) (aloof _ inside)
      (honest count _ next before)

/-- In a run from a new host where bytes are charged and released by allocations only, resets of a
domain are for good exactly if no decommit gives up pages that it is not billed for, in a
reservation where it is billed for pages that stay. -/
theorem forgetsForGood_iff (created : create config opened = .ok start) (acts : List Act)
    (words : ∀ act ∈ acts, act.inRange = true) (aloof : ∀ act ∈ acts, act.isAloof = true)
    (domain : DomainId) :
    ForgetsForGood start acts domain ↔
      ∀ count act, acts[count]? = some act →
        ¬(start.run (acts.take count)).Mixes (start.billAt acts domain count) act := by
  have tidy := tidy_run created words aloof
  constructor
  · intro forgets
    -- The state right behind an act that mixes is the one where the counter falls short.
    have honest : ∀ count act, acts[count]? = some act →
        (start.run (acts.take count)).Settled domain (start.billAt acts domain count) →
        ¬(start.run (acts.take count)).Mixes (start.billAt acts domain count) act := by
      intro count act next settled mixes
      obtain ⟨bound, _⟩ := List.getElem?_eq_some_iff.1 next
      obtain ⟨used, counter, short⟩ := settled.short_of_mixes (tidy count) mixes
      rw [← run_take_succ start next, ← billAt_succ next] at *
      exact absurd (forgets.exact (count + 1) bound used counter) (Nat.ne_of_lt short)
    intro count act next
    obtain ⟨bound, _⟩ := List.getElem?_eq_some_iff.1 next
    exact honest count act next (settled_run created words aloof honest (Nat.le_of_lt bound))
  · intro honest
    have settled := fun count => @settled_run config opened start acts domain created words aloof
      (fun count act next _ => honest count act next) count
    constructor
    · intro count bound used counter
      exact (settled count bound).exact (tidy count) counter
    · intro count act next frees stays
      obtain ⟨bound, _⟩ := List.getElem?_eq_some_iff.1 next
      exact (settled count (Nat.le_of_lt bound)).spares (honest count act next) frees stays

end

/-- A page is committed and forgotten by a reset; then another page of the reservation is committed,
and the first one is given up. -/
def forgottenPage : List Act :=
  [.onDomains (.create ⟨1⟩ ⟨1⟩ "only"),
    .virtualAlloc ⟨1⟩ none 8192 ⟨false, true⟩ .readWrite .task,
    .virtualAlloc ⟨1⟩ (some 0x10000000) 4096 ⟨true, false⟩ .readWrite .task,
    .onDomains (.resetCounters ⟨1⟩),
    .virtualAlloc ⟨1⟩ (some 0x10001000) 4096 ⟨true, false⟩ .readWrite .task,
    .virtualFree 0x10000000 4096 .decommit]

theorem forgetsForGood_iff_forgottenPage :
    ∃ start, create {} (fun _ => .ok (.memory 0 [])) = .ok start ∧
      (ForgetsForGood start forgottenPage ⟨1⟩ ↔
        ∀ count act, forgottenPage[count]? = some act →
          ¬(start.run (forgottenPage.take count)).Mixes
            (start.billAt forgottenPage ⟨1⟩ count) act) :=
  ⟨_, rfl, @forgetsForGood_iff {} (fun _ => .ok (.memory 0 [])) _ rfl forgottenPage (by decide)
    (by decide) ⟨1⟩⟩

/-- The page from after the reset is still there, but the counter is at zero. -/
theorem not_forgetsForGood_forgottenPage :
    ∃ start, create {} (fun _ => .ok (.memory 0 [])) = .ok start ∧
      (∀ act ∈ forgottenPage, act.inRange = true ∧ act.isAloof = true) ∧
      (start.run forgottenPage).registry.bytes? ⟨1⟩ = some 0 ∧
      (start.run forgottenPage).billedBytes (start.billAt forgottenPage ⟨1⟩ 6) = 4096 ∧
      ¬ForgetsForGood start forgottenPage ⟨1⟩ := by
  refine ⟨_, rfl, by decide, by decide, by decide +kernel, fun forgets => ?_⟩
  have same := forgets.exact 6 (by decide) 0 (by decide)
  exact absurd same (by decide +kernel)

end Steward.Host
