import Steward.Proofs.Host.Vacancy

/-! The address space and the ledger agree. What is charged at the base of a reservation is what is
committed there, and no charge is left where a reservation was released. -/

set_option autoImplicit false

namespace Steward.Host

open Memory

/-- Every reservation is charged for what is committed in it. -/
def Metered (registry : Domain.Registry) (space : Space) : Prop :=
  ∀ region ∈ space.regions, registry.heldAt region.base = region.committedBytes

namespace Metered

variable {registry after : Domain.Registry} {space : Space} {region changed : Region}

theorem of_held (metered : Metered registry space)
    (same : ∀ address, space.hasBase address = true →
      after.held? (.address address) = registry.held? (.address address)) :
    Metered after space := by
  intro region inside
  have present : space.hasBase region.base = true := Space.hasBase_iff.2 ⟨region, inside, rfl⟩
  rw [Domain.Registry.heldAt, same region.base present]
  exact metered region inside

theorem insert (metered : Metered registry space)
    (others : ∀ address, address ≠ changed.base →
      after.held? (.address address) = registry.held? (.address address))
    (exact : after.heldAt changed.base = changed.committedBytes) :
    Metered after (space.insert changed) := by
  intro region inside
  rcases Space.mem_insert.1 inside with rfl | ⟨old, apart⟩
  · exact exact
  · rw [Domain.Registry.heldAt, others region.base apart]
    exact metered region old

theorem remove (metered : Metered registry space) (base : Nat) :
    Metered (registry.release (.address base)).2 (space.remove base) := by
  intro region inside
  obtain ⟨old, apart⟩ := Space.mem_remove.1 inside
  rw [Domain.Registry.heldAt, Domain.Registry.held?_release, if_neg (by simpa using apart)]
  exact metered region old

/-- Pages are committed and charged, whether the reservation is new or was there. -/
theorem commit {host : Host} (metered : Metered host.registry space)
    (exact : host.registry.heldAt region.base = region.committedBytes) (thread : ThreadId)
    (range : Nat × Nat) (protection : Protection) :
    Metered (host.chargedAt thread (region.commit range protection).1 region.base)
      (space.insert (region.commit range protection).2) := by
  refine metered.insert (fun address apart => ?_) ?_
  · exact host.held?_chargedAt thread _ (by simpa using apart)
  · rw [Region.committedBytes_commit, ← exact]
    exact host.heldAt_chargedAt thread _ region.base

theorem decommit (metered : Metered registry space) (inside : region ∈ space.regions)
    (range : Nat × Nat) :
    Metered
      (if (region.decommit range).1 = 0 then registry
        else (registry.releasePartial (.address region.base) (region.decommit range).1).2)
      (space.insert (region.decommit range).2) := by
  have parts := region.committedBytes_decommit range
  have exact := metered region inside
  refine metered.insert (fun address apart => ?_) ?_
  · split
    · rfl
    · rw [Domain.Registry.held?_releasePartial, if_neg (by simpa using apart)]
  · rw [Region.base_decommit]
    split
    · omega
    · -- All that is given up was committed and hence charged: the credit is not cut short.
      rw [Domain.Registry.heldAt_releasePartial]
      omega

theorem alike (metered : Metered registry space) (inside : region ∈ space.regions)
    (same : region.Alike changed) : Metered registry (space.insert changed) := by
  refine metered.insert (fun _ _ => rfl) ?_
  rw [same.base, same.committedBytes]
  exact metered region inside

theorem place {foreign : Nat → Prop} (metered : Metered registry space)
    (vacant : Vacant foreign registry space) {wanted : Option Nat} {size base : Nat}
    {other : Space} (asked : size ≠ 0) (word : wanted.all (· ≤ Word.top) = true)
    (placed : space.place wanted (pageCeil size) = .ok (base, other)) (own : ¬foreign base) :
    Metered registry other ∧ registry.heldAt base = 0 := by
  obtain ⟨same, nothing⟩ := vacant.place asked word placed
  refine ⟨fun region inside => metered region (same ▸ inside), ?_⟩
  rw [Domain.Registry.heldAt, nothing own]
  rfl

/-- Every act keeps the charges of reservations, if it resets no counter and charges and releases
foreign addresses only. -/
theorem shift {foreign : Nat → Prop} {host : Host} {act : Act} {serial : Nat}
    (step : Shift host act registry space serial) (metered : Metered host.registry host.space)
    (vacant : Vacant foreign host.registry host.space) (word : act.inRange = true)
    (kept : act.resets = false) (named : ∀ address ∈ act.address?, foreign address)
    (before : ∀ address, foreign address → host.space.hasBase address = false)
    (later : ∀ address, foreign address → space.hasBase address = false) :
    Metered registry space := by
  -- What an act names is foreign, and what is foreign is no base.
  have unnamed : ∀ address, host.space.hasBase address = true → address ∉ act.address? := by
    intro address present touched
    simp [before address (named address touched)] at present
  cases step with
  | refused _ events => exact metered
  | onDomains operation =>
    refine metered.of_held fun address present => ?_
    have away : operation.site? ≠ some (.address address) := fun same =>
      unnamed address present (by simp [Act.address?, same])
    rcases Domain.Registry.held?_turn (host.registry.turn_perform operation) away with
      same | ⟨⟨domain, rfl⟩, _⟩
    · exact same
    · cases kept
  | heapCreated flags => exact metered
  | blockTaken _ =>
    exact metered.of_held fun address _ => by simp [Domain.Registry.held?_charge]
  | blockGiven serial =>
    exact metered.of_held fun address _ => by simp [Domain.Registry.held?_release]
  | reserved asked placed reserves =>
    have own := fun outside =>
      Bool.eq_false_iff.1 (later _ outside) (Space.hasBase_insert_self _ _)
    obtain ⟨same, exact⟩ := metered.place vacant asked word placed own
    exact same.insert (fun _ _ => rfl) (exact.trans (Region.committedBytes_reserve _ _ _).symm)
  | committedAnew asked placed new commits granted within =>
    subst new
    have own := fun outside =>
      Bool.eq_false_iff.1 (later _ outside) (Space.hasBase_insert_self _ _)
    obtain ⟨same, exact⟩ := metered.place vacant asked word placed own
    exact same.commit (exact.trans (Region.committedBytes_reserve _ _ _).symm) _ _ _
  | committedInPlace asked found commits within granted =>
    obtain ⟨inside, _⟩ := Space.mem_of_regionAt? found
    exact metered.commit (metered _ inside) _ _ _
  | decommitted found within => exact metered.decommit (Space.mem_of_region found) _
  | released present => exact metered.remove _
  | reprotected made =>
    obtain ⟨region, changed, inside, same, rfl⟩ := Space.insert_of_protect made
    exact metered.alike inside same
  | written made =>
    obtain ⟨region, changed, inside, same, rfl⟩ := Space.insert_of_write made
    exact metered.alike inside same
  | mapped thread address size =>
    refine metered.of_held fun other present => ?_
    have apart : other ≠ address := fun same => unnamed other present (by simp [Act.address?, same])
    rw [Domain.Registry.held?_charge, if_neg (by simpa using apart)]
  | unmapped address =>
    refine metered.of_held fun other present => ?_
    have apart : other ≠ address := fun same => unnamed other present (by simp [Act.address?, same])
    rw [Domain.Registry.held?_release, if_neg (by simpa using apart)]

end Metered

/-- In every state of a run from a new host, a reservation's base is charged for exactly the bytes
that are committed in the reservation, and no charge is left at the base of one that was released.
Addresses that acts charge or release on their own must not be bases, and counters must not be
reset. -/
theorem heldAt_base_eq_committedBytes {config : Config}
    {opened : String → Except Error Trace.Sink} {start : Host}
    (created : Host.create config opened = .ok start) (acts : List Act)
    (words : ∀ act ∈ acts, act.inRange = true) (kept : ∀ act ∈ acts, act.resets = false)
    (apart : ∀ act ∈ acts, ∀ address ∈ act.address?, ∀ count ≤ acts.length,
      (start.run (acts.take count)).space.hasBase address = false) :
    ∀ count ≤ acts.length,
      let host := start.run (acts.take count)
      (∀ region ∈ host.space.regions,
        host.registry.heldAt region.base = region.committedBytes) ∧
      ∀ earlier ≤ count, ∀ base,
        (start.run (acts.take earlier)).space.hasBase base = true →
        host.space.hasBase base = false → host.registry.ledger.get? (.address base) = none := by
  let foreign : Nat → Prop := fun address => ∃ act ∈ acts, address ∈ act.address?
  have outside : ∀ count ≤ acts.length, ∀ address, foreign address →
      (start.run (acts.take count)).space.hasBase address = false :=
    fun count within address ⟨act, inside, named⟩ => apart act inside address named count within
  have metered : ∀ count, Metered (start.run (acts.take count)).registry
      (start.run (acts.take count)).space ∧ Vacant foreign (start.run (acts.take count)).registry
      (start.run (acts.take count)).space := by
    have initial : Metered start.registry start.space ∧
        Vacant foreign start.registry start.space := by
      obtain ⟨registry, space, _⟩ := books_of_create created
      rw [registry, space]
      exact ⟨fun _ inside => absurd inside List.not_mem_nil, .empty, fun _ _ _ => rfl⟩
    refine @run_induction (fun host => Metered host.registry host.space ∧
      Vacant foreign host.registry host.space) start acts initial fun count act next before => ?_
    obtain ⟨bound, rfl⟩ := List.getElem?_eq_some_iff.1 next
    have inside : acts[count] ∈ acts := List.getElem_mem bound
    have later := outside (count + 1) bound
    rw [run_take_succ start next] at later ⊢
    have step := shift_perform (start.run (acts.take count)) acts[count]
    have named : ∀ address ∈ acts[count].address?, foreign address :=
      fun address named => ⟨_, inside, named⟩
    exact ⟨before.1.shift step before.2 (words _ inside) (kept _ inside) named
      (outside count (Nat.le_of_lt bound)) later, before.2.shift step (words _ inside) (.inr named)⟩
  intro count within
  refine ⟨(metered count).1, fun earlier before base present absent => ?_⟩
  -- A foreign address is a base in no state, so that the base of an earlier one is not foreign.
  have own : ¬foreign base := fun named => by
    simp [outside earlier (Nat.le_trans before within) base named] at present
  exact (Domain.Registry.held?_eq_none_iff _).1 ((metered count).2.nothing base own absent)

/-- Two domains commit pages of one reservation, give some up, and another reservation is released
again. -/
def sharedReservation : List Act :=
  [.onDomains (.create ⟨1⟩ ⟨1⟩ "first"), .onDomains (.create ⟨2⟩ ⟨2⟩ "second"),
    .virtualAlloc ⟨1⟩ none 65536 ⟨false, true⟩ .readWrite .task,
    .virtualAlloc ⟨1⟩ (some 0x10000000) 8192 ⟨true, false⟩ .readWrite .task,
    .virtualAlloc ⟨2⟩ (some 0x10001000) 12288 ⟨true, false⟩ .readOnly .process,
    .virtualAlloc ⟨2⟩ (some 0x20000000) 4096 ⟨true, true⟩ .readWrite .task,
    .mapped ⟨1⟩ 0x30000000 100, .virtualProtect 0x10001000 4096 .readWrite,
    .virtualFree 0x10000000 4096 .decommit, .onDomains (.unload ⟨1⟩),
    .virtualFree 0x20000000 0 .release]

theorem heldAt_sharedReservation :
    ∃ start, create {} (fun _ => .ok (.memory 0 [])) = .ok start ∧
      (∀ region ∈ (start.run sharedReservation).space.regions,
        (start.run sharedReservation).registry.heldAt region.base = region.committedBytes) ∧
      (start.run sharedReservation).registry.heldAt 0x10000000 = 12288 ∧
      (start.run sharedReservation).registry.ledger.get? (.address 0x20000000) = none := by
  refine ⟨_, rfl, ?_⟩
  have agreed := @heldAt_base_eq_committedBytes {} (fun _ => .ok (.memory 0 [])) _ rfl
    sharedReservation (by decide) (by decide) (by decide) 11 (by decide)
  exact ⟨agreed.1, by decide, agreed.2 10 (by decide) 0x20000000 (by decide) (by decide)⟩

end Steward.Host
