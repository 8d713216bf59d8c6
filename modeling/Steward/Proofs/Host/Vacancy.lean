import Steward.Proofs.Domain.Holding
import Steward.Proofs.Host.Act
import Steward.Proofs.Memory.Space

/-! Where no reservation begins nothing is charged, so that a new reservation starts with a charge
of its own. Addresses that acts charge on their own are left out. -/

set_option autoImplicit false

namespace Steward.Host

open Memory

/-- The address at which an act charges or releases bytes, where it names one. -/
def Act.address? : Act → Option Nat
  | onDomains operation =>
      match operation.site? with
      | some (.address address) => some address
      | _ => none
  | mapped _ address _ => some address
  | unmapped address => some address
  | _ => none

/-- Bytes are charged that nobody was asked for. -/
def Act.charges : Act → Bool
  | onDomains operation => operation.charges
  | mapped .. => true
  | _ => false

def Act.resets : Act → Bool
  | onDomains (.resetCounters _) => true
  | _ => false

/-- A wish for a place is a machine word. -/
def Act.inRange : Act → Bool
  | virtualAlloc _ wanted .. => wanted.all (· ≤ Word.top)
  | _ => true

theorem held?_chargedAt (host : Host) (thread : ThreadId) (bytes : Nat) {base : Nat}
    {site : Domain.Site} (apart : site ≠ .address base) :
    (host.chargedAt thread bytes base).held? site = host.registry.held? site := by
  unfold chargedAt
  split
  · rfl
  · rw [Domain.Registry.held?_charge, if_neg apart]

theorem heldAt_chargedAt (host : Host) (thread : ThreadId) (bytes base : Nat) :
    (host.chargedAt thread bytes base).heldAt base = host.registry.heldAt base + bytes := by
  unfold chargedAt
  split
  · next empty => rw [empty, Nat.add_zero]
  · rw [Domain.Registry.heldAt, Domain.Registry.held?_charge, if_pos rfl]
    rfl

/-- No reservation begins where a new one is put. -/
theorem place_new {space other : Space} (ordered : space.Ordered) {wanted : Option Nat}
    {size base : Nat} (asked : size ≠ 0) (word : wanted.all (· ≤ Word.top) = true)
    (placed : space.place wanted (pageCeil size) = .ok (base, other)) :
    space.hasBase base = false ∧ other.regions = space.regions := by
  have positive : 0 < pageCeil size := Nat.lt_of_lt_of_le (by decide) (pageSize_le_pageCeil asked)
  have words : ∀ address, wanted = some address → address ≤ Word.top := by
    rintro address rfl
    simpa using word
  exact Space.place_fresh ordered positive words placed

/-- No address is charged where no reservation begins, foreign ones apart. -/
structure Vacant (foreign : Nat → Prop) (registry : Domain.Registry) (space : Space) : Prop where
  ordered : space.Ordered
  nothing : ∀ address, ¬foreign address → space.hasBase address = false →
    registry.held? (.address address) = none

namespace Vacant

variable {foreign : Nat → Prop} {registry after : Domain.Registry} {space : Space}

theorem of_held (vacant : Vacant foreign registry space)
    (kept : ∀ address, ¬foreign address → registry.held? (.address address) = none →
      after.held? (.address address) = none) : Vacant foreign after space :=
  ⟨vacant.ordered, fun address own absent => kept address own (vacant.nothing address own absent)⟩

theorem of_regions (vacant : Vacant foreign registry space) {other : Space}
    (same : other.regions = space.regions) : Vacant foreign registry other := by
  obtain ⟨regions, mark⟩ := space
  obtain ⟨others, mark⟩ := other
  cases same
  exact ⟨⟨vacant.ordered.ascending, vacant.ordered.filled⟩, vacant.nothing⟩

/-- A reservation is put in, or put in place of another, and only its base may be charged anew. -/
theorem insert (vacant : Vacant foreign registry space) {changed : Region}
    (filled : 0 < changed.pages.length)
    (others : ∀ address, address ≠ changed.base →
      registry.held? (.address address) = none → after.held? (.address address) = none) :
    Vacant foreign after (space.insert changed) := by
  refine ⟨vacant.ordered.insert filled, fun address own absent => ?_⟩
  rw [Space.hasBase_insert, Bool.or_eq_false_iff, decide_eq_false_iff_not] at absent
  exact others address (Ne.symm absent.1) (vacant.nothing address own absent.2)

theorem remove (vacant : Vacant foreign registry space) (base : Nat) :
    Vacant foreign (registry.release (.address base)).2 (space.remove base) := by
  refine ⟨vacant.ordered.remove base, fun address own absent => ?_⟩
  rw [Domain.Registry.held?_release]
  split
  · rfl
  · next apart =>
    have other : address ≠ base := fun same => apart (congrArg _ same)
    rw [Space.hasBase_remove] at absent
    exact vacant.nothing address own (by simpa [other] using absent)

/-- A new reservation is put where none begins, and where nothing is charged. -/
theorem place (vacant : Vacant foreign registry space) {wanted : Option Nat} {size base : Nat}
    {other : Space} (asked : size ≠ 0) (word : wanted.all (· ≤ Word.top) = true)
    (placed : space.place wanted (pageCeil size) = .ok (base, other)) :
    other.regions = space.regions ∧
      (¬foreign base → registry.held? (.address base) = none) := by
  obtain ⟨fresh, same⟩ := place_new vacant.ordered asked word placed
  exact ⟨same, fun own => vacant.nothing base own fresh⟩

/-- Every act keeps to the bases of reservations, unless it charges a foreign address. -/
theorem shift {host : Host} {act : Act} {serial : Nat}
    (step : Shift host act registry space serial)
    (vacant : Vacant foreign host.registry host.space) (word : act.inRange = true)
    (named : act.charges = false ∨ ∀ address ∈ act.address?, foreign address) :
    Vacant foreign registry space := by
  cases step with
  | refused _ events => exact ⟨vacant.ordered, vacant.nothing⟩
  | onDomains operation =>
    refine vacant.of_held fun address own absent => ?_
    have quiet : operation.charges = false ∨ operation.site? ≠ some (.address address) :=
      named.imp_right fun outside same => own (outside address (by simp [Act.address?, same]))
    exact Domain.Registry.held?_none_turn (host.registry.turn_perform operation) quiet absent
  | heapCreated flags => exact vacant
  | blockTaken granted =>
    refine vacant.of_held fun address _ absent => ?_
    rw [Domain.Registry.held?_charge, if_neg (by simp), absent]
  | blockGiven serial =>
    refine vacant.of_held fun address _ absent => ?_
    rw [Domain.Registry.held?_release, if_neg (by simp), absent]
  | reserved asked placed reserves =>
    obtain ⟨same, _⟩ := vacant.place asked word placed
    exact (vacant.of_regions same).insert (Region.length_reserve_pos _ _ asked)
      fun _ _ absent => absent
  | @committedAnew thread wanted size base kind protection level other region range asked placed
      new commits granted within =>
    subst new
    obtain ⟨same, _⟩ := vacant.place asked word placed
    have filled := Region.length_reserve_pos base protection asked
    refine (vacant.of_regions same).insert ?_ fun address apart absent => ?_
    · rwa [Region.length_commit]
    · exact (host.held?_chargedAt _ _ (by simpa using apart)).trans absent
  | @committedInPlace _ _ _ _ _ _ region range _ found _ _ _ =>
    -- The charge at a base that was there may grow, or appear where nothing was committed.
    have inside := (Space.mem_of_regionAt? found).1
    refine vacant.insert ?_ fun address apart absent => ?_
    · rw [Region.length_commit]
      exact vacant.ordered.filled region inside
    · exact (host.held?_chargedAt _ _ (by simpa using apart)).trans absent
  | @decommitted _ _ region range found _ =>
    have inside := Space.mem_of_region found
    refine vacant.insert ?_ fun address apart absent => ?_
    · rw [Region.length_decommit]
      exact vacant.ordered.filled region inside
    · split
      · exact absent
      · rw [Domain.Registry.held?_releasePartial, if_neg (by simpa using apart), absent]
  | released present => exact vacant.remove _
  | reprotected made =>
    obtain ⟨region, changed, inside, same, rfl⟩ := Space.insert_of_protect made
    have filled := vacant.ordered.filled region inside
    exact vacant.insert (same.length ▸ filled) fun _ _ absent => absent
  | written made =>
    obtain ⟨region, changed, inside, same, rfl⟩ := Space.insert_of_write made
    have filled := vacant.ordered.filled region inside
    exact vacant.insert (same.length ▸ filled) fun _ _ absent => absent
  | mapped thread address size =>
    refine vacant.of_held fun other own absent => ?_
    have apart : other ≠ address := by
      rintro rfl
      rcases named with silent | outside
      · cases silent
      · exact own (outside other rfl)
    rw [Domain.Registry.held?_charge, if_neg (by simpa using apart), absent]
  | unmapped address =>
    refine vacant.of_held fun other _ absent => ?_
    rw [Domain.Registry.held?_release, absent]
    split <;> rfl

end Vacant

end Steward.Host
