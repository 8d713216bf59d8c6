import Steward.Proofs.Domain.Dues
import Steward.Proofs.Host.Rousing
import Steward.Proofs.Host.Vacancy

/-! Books in order. While bytes are charged and released by allocations only, the ledger of a host
has a charge only for blocks that are there and at bases of reservations, so that a counter is the
sum of what its domain owes for those. -/

set_option autoImplicit false

namespace Steward.Host

open Memory

/-- The act sets the counter of a domain to zero. -/
def Act.forgets (domain : DomainId) : Act → Bool
  | onDomains (.resetCounters home) => home = domain
  | _ => false

/-- No bytes are charged or released by the name of their site. -/
def Act.isAloof : Act → Bool
  | onDomains operation => operation.site?.isNone
  | mapped .. | unmapped .. => false
  | _ => true

/-- Bytes are charged or released by the name of a block. -/
def Act.namesBlock : Act → Bool
  | onDomains operation =>
      match operation.site? with
      | some (.block _) => true
      | _ => false
  | _ => false

theorem Act.namesBlock_of_isAloof {act : Act} (aloof : act.isAloof = true) :
    act.namesBlock = false := by
  cases act with
  | onDomains operation =>
    simp only [isAloof, Option.isNone_iff_eq_none] at aloof
    simp [namesBlock, aloof]
  | _ => rfl

/-- Away from the blocks, an act leaves their charges alone, unless it resets a counter. -/
theorem turn_elsewhere {host : Host} {act : Act} {registry : Domain.Registry} {space : Space}
    {serial : Nat} (step : Shift host act registry space serial) (plain : act.shelves = false)
    (unnamed : act.namesBlock = false) :
    ∃ operation, Domain.Registry.Turn host.registry operation registry ∧
      (∀ serial, operation.site? ≠ some (.block serial)) ∧
      ∀ domain, operation = .resetCounters domain → act.forgets domain = true := by
  obtain ⟨operation, turn, rfl | rfl | ⟨site, named, apart⟩⟩ := turn_shift step
  · refine ⟨operation, turn, fun serial named => ?_, ?_⟩
    · simp [Act.namesBlock, named] at unnamed
    · rintro domain rfl
      exact decide_eq_true rfl
  · refine ⟨.rudeUnload, turn, fun serial named => ?_, fun domain same => ?_⟩
    · cases named
    · cases same
  · refine ⟨operation, turn, fun serial same => ?_, ?_⟩
    · exact apart plain serial (Option.some.inj (named.symm.trans same))
    · rintro domain rfl
      cases named

/-! ### Blocks -/

/-- The heaps of a host, and the blocks that were taken from them. -/
def shelf (host : Host) : Assoc Nat Heap × Assoc Nat Block := (host.heaps, host.blocks)

theorem adopt_shelf (host : Host) (registry : Domain.Registry) :
    (host.adopt registry).shelf = host.shelf := by
  obtain ⟨woken, same⟩ := host.rouses_adopt registry
  rw [same]
  rfl

theorem grant_shelf (host : Host) (thread : ThreadId) (bytes : Nat) (level : CriticalLevel) :
    (host.grant thread bytes level).2.shelf = host.shelf := by
  unfold grant
  split
  · rfl
  · split
    · exact host.adopt_shelf _
    · dsimp only
      split
      · exact host.adopt_shelf _
      · exact host.adopt_shelf _

theorem chargeAt_shelf (host : Host) (thread : ThreadId) (bytes base : Nat) :
    (host.chargeAt thread bytes base).shelf = host.shelf := by
  unfold chargeAt
  split <;> rfl

theorem virtualAlloc_shelf (host : Host) (thread : ThreadId) (wanted : Option Nat) (size : Nat)
    (kind : AllocationKind) (protection : Protection) (level : CriticalLevel) :
    (host.virtualAlloc thread wanted size kind protection level).2.shelf = host.shelf := by
  have made := host.allocation_virtualAlloc thread wanted size kind protection level
  generalize (host.virtualAlloc thread wanted size kind protection level).1 = outcome at made
  generalize (host.virtualAlloc thread wanted size kind protection level).2 = after at made ⊢
  cases made with
  | refused | reserved => rfl
  | @denied bytes _ denial => rw [← host.grant_shelf thread bytes level, denial]
  | committedAnew | committedInPlace => exact chargeAt_shelf _ _ _ _

theorem virtualFree_shelf (host : Host) (address size : Nat) (kind : FreeKind) :
    (host.virtualFree address size kind).2.shelf = host.shelf := by
  cases kind with
  | release =>
    simp only [virtualFree]
    split
    · rfl
    · split <;> rfl
  | decommit =>
    simp only [virtualFree]
    split
    · rfl
    · split <;> rfl

theorem shelf_perform (host : Host) {act : Act} (plain : act.shelves = false)
    (old : ∀ flags, act ≠ .createHeap flags) : (host.perform act).shelf = host.shelf := by
  cases act with
  | heapAlloc | heapFree => cases plain
  | createHeap flags => exact absurd rfl (old flags)
  | onDomains operation => exact host.adopt_shelf _
  | mapped | unmapped | watchMemory => rfl
  | virtualAlloc thread wanted size kind protection level =>
    exact host.virtualAlloc_shelf thread wanted size kind protection level
  | virtualFree address size kind => exact host.virtualFree_shelf address size kind
  | virtualProtect address size protection =>
    simp only [perform, virtualProtect]
    split <;> rfl
  | virtualWrite address data =>
    simp only [perform, virtualWrite]
    split <;> rfl

theorem adopt_blocks (host : Host) (registry : Domain.Registry) :
    (host.adopt registry).blocks = host.blocks := congrArg Prod.snd (host.adopt_shelf registry)

theorem blocks_perform (host : Host) {act : Act} (plain : act.shelves = false) :
    (host.perform act).blocks = host.blocks := by
  cases act with
  | createHeap => rfl
  | _ => exact congrArg Prod.snd (host.shelf_perform plain fun _ same => by cases same)

/-- What an act can do to the blocks of a host, with its register and its next serial number. -/
inductive Shelving (host : Host) :
    Act → Domain.Registry → Nat → Assoc Nat Block → Prop where
  | refused (act : Act) (events : Domain.EventQueue) :
      Shelving host act { host.registry with events } host.nextSerial host.blocks
  | elsewhere {act : Act} {registry : Domain.Registry} {space : Space} {serial : Nat}
      (step : Shift host act registry space serial) (plain : act.shelves = false) :
      Shelving host act registry serial host.blocks
  | taken (thread : ThreadId) (heap size : Nat) (level : CriticalLevel) :
      Shelving host (.heapAlloc thread heap size level)
        (host.registry.charge thread size (.block host.nextSerial)) (host.nextSerial + 1)
        (host.blocks.insert host.nextSerial { heap, size })
  | given {serial : Nat} {block : Block} (found : host.blocks.get? serial = some block) :
      Shelving host (.heapFree serial) (host.registry.release (.block serial)).2 host.nextSerial
        (host.blocks.erase serial)

theorem shelving_perform (host : Host) (act : Act) :
    Shelving host act (host.perform act).registry (host.perform act).nextSerial
      (host.perform act).blocks := by
  cases plain : act.shelves with
  | false =>
    rw [blocks_perform host plain]
    exact .elsewhere (shift_perform host act) plain
  | true =>
    cases act with
    | heapAlloc thread heap size level =>
      simp only [perform, heapAlloc]
      split
      · next denied =>
        have blocks : (host.grant thread size level).2.blocks = host.blocks :=
          congrArg Prod.snd (host.grant_shelf thread size level)
        obtain ⟨⟨events, registry⟩, _, serial⟩ := grant_eq_false denied
        rw [denied] at blocks
        rw [registry, serial, blocks]
        exact .refused _ events
      · next granted =>
        obtain ⟨rfl, _⟩ := grant_eq_true granted
        split
        · exact .refused _ _
        · exact .taken thread heap size level
    | heapFree serial =>
      simp only [perform, heapFree]
      split
      · exact .refused _ host.registry.events
      · next found => exact .given found
    | _ => cases plain

/-! ### Charges for what is there -/

/-- The ledger of a host is in balance, and nothing is charged where nothing is. -/
structure Tidy (host : Host) : Prop where
  counted : host.registry.Counted
  balanced : host.registry.Balanced
  vacant : Vacant (fun _ => False) host.registry host.space
  shelved : ∀ serial, host.blocks.get? serial = none → host.registry.held? (.block serial) = none
  unused : ∀ serial, host.nextSerial ≤ serial → host.blocks.get? serial = none

theorem Act.charges_of_isAloof {act : Act} (aloof : act.isAloof = true) : act.charges = false := by
  cases act with
  | onDomains operation =>
    cases operation with
    | charge => cases aloof
    | _ => rfl
  | mapped | unmapped => cases aloof
  | _ => rfl

theorem nextSerial_shift {host : Host} {act : Act} {registry : Domain.Registry} {space : Space}
    {serial : Nat} (step : Shift host act registry space serial) : host.nextSerial ≤ serial := by
  cases step with
  | heapCreated | blockTaken => exact Nat.le_succ _
  | _ => exact Nat.le_refl _

namespace Tidy

variable {host : Host} {act : Act} {domain : DomainId}

theorem create {config : Config} {opened : String → Except Error Trace.Sink}
    (created : create config opened = .ok host) : host.Tidy := by
  unfold Host.create at created
  split at created
  · cases created
  · cases created
    exact ⟨.empty _ _, .empty _ _, ⟨.empty, fun _ _ _ => rfl⟩, fun _ _ => rfl, fun _ _ => rfl⟩

/-- A block is charged while it is there, and under a serial number that was not used before. -/
theorem shelving {registry : Domain.Registry} {serial : Nat} {blocks : Assoc Nat Block}
    (tidy : host.Tidy) (step : Shelving host act registry serial blocks)
    (aloof : act.isAloof = true) :
    (∀ other, blocks.get? other = none → registry.held? (.block other) = none) ∧
      ∀ other, serial ≤ other → blocks.get? other = none := by
  cases step with
  | refused act events => exact ⟨tidy.shelved, tidy.unused⟩
  | elsewhere step plain =>
    obtain ⟨operation, turn, away, _⟩ :=
      turn_elsewhere step plain (Act.namesBlock_of_isAloof aloof)
    refine ⟨fun other absent => ?_, fun other behind => ?_⟩
    · exact Domain.Registry.held?_none_turn turn (.inr (away other)) (tidy.shelved other absent)
    · exact tidy.unused other (Nat.le_trans (nextSerial_shift step) behind)
  | taken thread heap size level =>
    refine ⟨fun other absent => ?_, fun other behind => ?_⟩
    · rw [Assoc.get?_insert] at absent
      split at absent
      · cases absent
      · next apart =>
        rw [Domain.Registry.held?_charge, if_neg (by simpa using apart)]
        exact tidy.shelved other absent
    · rw [Assoc.get?_insert, if_neg (by omega)]
      exact tidy.unused other (Nat.le_of_succ_le behind)
  | @given serial block found =>
    refine ⟨fun other absent => ?_, fun other behind => ?_⟩
    · rw [Domain.Registry.held?_release]
      split
      · rfl
      · next apart =>
        rw [Assoc.get?_erase, if_neg (by simpa using apart)] at absent
        exact tidy.shelved other absent
    · rw [Assoc.get?_erase, tidy.unused other behind]
      split <;> rfl

theorem perform (tidy : host.Tidy) (word : act.inRange = true) (aloof : act.isAloof = true) :
    (host.perform act).Tidy := by
  have step := shift_perform host act
  obtain ⟨operation, turn, _⟩ := turn_shift step
  obtain ⟨shelved, unused⟩ := tidy.shelving (shelving_perform host act) aloof
  exact ⟨tidy.counted.turn turn, tidy.balanced.turn turn tidy.counted,
    tidy.vacant.shift step word (.inl (Act.charges_of_isAloof aloof)), shelved, unused⟩

/-- A counter is the sum of what is owed for reservations and for blocks. -/
theorem eq_sum_dues (tidy : host.Tidy) {used : Nat}
    (counter : host.registry.bytes? domain = some used) :
    used =
      (host.space.regions.map fun region =>
        host.registry.dues domain (.address region.base)).sum +
      (host.blocks.entries.map fun entry => host.registry.dues domain (.block entry.1)).sum := by
  let bases := host.space.regions.map fun region => Domain.Site.address region.base
  let serials := host.blocks.entries.map fun entry => Domain.Site.block entry.1
  have apart : (bases ++ serials).Nodup := by
    refine List.nodup_append.2 ⟨?_, ?_, ?_⟩
    · refine List.Pairwise.map _ (fun first second less same => ?_) tidy.vacant.ordered.ascending
      exact Nat.ne_of_lt less (Domain.Site.address.inj same)
    · have distinct : ((host.blocks.entries.map Prod.fst).map Domain.Site.block).Nodup :=
        List.Pairwise.map _ (fun _ _ apart same => apart (Domain.Site.block.inj same))
          host.blocks.distinct
      rwa [List.map_map] at distinct
    · intro base inside serial there same
      obtain ⟨region, _, rfl⟩ := List.mem_map.1 inside
      obtain ⟨entry, _, rfl⟩ := List.mem_map.1 there
      cases same
  have covers : ∀ site, site ∉ bases ++ serials → host.registry.held? site = none := by
    intro site outside
    rw [List.mem_append, not_or] at outside
    cases site with
    | address base =>
      refine tidy.vacant.nothing base id (Bool.eq_false_iff.2 fun present => outside.1 ?_)
      obtain ⟨region, inside, rfl⟩ := Space.hasBase_iff.1 present
      exact List.mem_map_of_mem inside
    | block serial =>
      refine tidy.shelved serial ?_
      cases found : host.blocks.get? serial with
      | none => rfl
      | some block =>
        exact absurd (List.mem_map_of_mem (Assoc.mem_of_get? found)) outside.2
  rw [tidy.balanced.eq_sum_dues counter apart covers, List.map_append, List.sum_append,
    List.map_map, List.map_map]
  rfl

end Tidy

end Steward.Host
