import Steward.Proofs.Host.Act
import Steward.Proofs.Memory.Layout

/-! Reservations of a host never overlap, whatever is reserved, committed and given up, with a
wanted place or without. -/

set_option autoImplicit false

namespace Steward.Memory.Space.Laid

open Host

/-- Every act leaves reservations apart from each other. -/
theorem shift {host : Host} {act : Act} {registry : Domain.Registry} {space : Space}
    {serial : Nat} (step : Shift host act registry space serial) (laid : host.space.Laid) :
    space.Laid := by
  cases step with
  | reserved asked placed reserves =>
    exact laid.insert_placed placed (Region.length_reserve_pos _ _ asked) (by simp)
  | @committedAnew _ _ _ base _ protection _ _ _ _ asked placed new commits granted within =>
    -- The commit changes pages of the new reservation, but not where it lies.
    subst new
    refine laid.insert_placed placed ?_ (by simp)
    rw [Region.length_commit]
    exact Region.length_reserve_pos base protection asked
  | committedInPlace asked found commits within granted =>
    exact laid.replace (mem_of_regionAt? found).1 (Region.base_commit _ _ _)
      (Region.length_commit _ _ _)
  | decommitted found within =>
    exact laid.replace (mem_of_region found) (Region.base_decommit _ _) (Region.length_decommit _ _)
  | released present => exact laid.remove _
  | reprotected made =>
    obtain ⟨region, changed, inside, same, rfl⟩ := insert_of_protect made
    exact laid.replace inside same.base same.length
  | written made =>
    obtain ⟨region, changed, inside, same, rfl⟩ := insert_of_write made
    exact laid.replace inside same.base same.length
  | refused | onDomains | heapCreated | blockTaken | blockGiven | mapped | unmapped => exact laid

end Steward.Memory.Space.Laid

namespace Steward.Host

open Memory

theorem laid_run {config : Config} {opened : String → Except Error Trace.Sink} {start : Host}
    (created : create config opened = .ok start) (acts : List Act) :
    (start.run acts).space.Laid := by
  have initial : start.space.Laid := (books_of_create created).2.1 ▸ .empty
  clear created
  induction acts generalizing start with
  | nil => exact initial
  | cons act rest ih => exact ih (initial.shift (shift_perform start act))

/-- In every state, whichever acts led to it, no address is in two reservations, every reservation
has a base of the granularity and pages, and each address is looked up in the reservation that
contains it: one that begins at or below it and ends behind it, where its end is a word. -/
theorem regionAt?_iff_contains {config : Config} {opened : String → Except Error Trace.Sink}
    {start : Host} (created : create config opened = .ok start) (acts : List Act) :
    let space := (start.run acts).space
    (space.regions.Pairwise fun first second => ∀ address,
      ¬(first.contains address = true ∧ second.contains address = true)) ∧
    (∀ region ∈ space.regions, 0x10000 ∣ region.base ∧ 4096 ∣ region.size ∧ 0 < region.size) ∧
    (∀ address region, space.regionAt? address = some region ↔
      region ∈ space.regions ∧ region.contains address = true) ∧
    ∀ region ∈ space.regions, region.limit ≤ Word.top → ∀ address,
      (region.contains address = true ↔ region.base ≤ address ∧ address < region.limit) := by
  have laid := laid_run created acts
  refine ⟨laid.pairwise_disjoint, fun region inside => ?_, fun address region => ?_,
    fun region _ ends address => ?_⟩
  · have pages := laid.filled region inside
    exact ⟨laid.aligned region inside, Nat.dvd_mul_left _ _, Nat.mul_pos pages (by decide)⟩
  · refine ⟨Space.mem_of_regionAt?, fun found => ?_⟩
    have within := Region.contains_iff.1 found.2
    exact (laid.regionAt?_eq_some_iff (by omega)).2 found
  · rw [Region.contains_iff, and_iff_left ends]

/-- Reservations with and without a wanted place, one that is given up, and one that is refused
because it would run into another. -/
def crowdedSpace : List Act :=
  [.virtualAlloc ⟨1⟩ none 0x10000 ⟨false, true⟩ .readWrite .task,
    .virtualAlloc ⟨1⟩ (some 0x10012345) 5000 ⟨true, true⟩ .readWrite .process,
    .virtualAlloc ⟨2⟩ none 0x30000 ⟨false, true⟩ .readOnly .task,
    .virtualFree 0x10000000 0 .release,
    .virtualAlloc ⟨2⟩ (some 0x1000ffff) 0x20000 ⟨false, true⟩ .readWrite .task,
    .virtualAlloc ⟨1⟩ (some 0x10011000) 4096 ⟨true, false⟩ .readOnly .task]

theorem regionAt?_crowdedSpace :
    ∃ start, create {} (fun _ => .ok (.memory 0 [])) = .ok start ∧
      (∀ region ∈ (start.run crowdedSpace).space.regions, region.limit ≤ Word.top) ∧
      (start.run crowdedSpace).space.regions.map (fun region => (region.base, region.size)) =
        [(0x10010000, 0x2000), (0x10020000, 0x30000)] ∧
      ∀ region, (start.run crowdedSpace).space.regionAt? 0x10011fff = some region ↔
        region ∈ (start.run crowdedSpace).space.regions ∧ region.contains 0x10011fff = true := by
  refine ⟨_, rfl, by decide, by decide, ?_⟩
  have laid := @regionAt?_iff_contains {} (fun _ => .ok (.memory 0 [])) _ rfl crowdedSpace
  exact laid.2.2.1 0x10011fff

end Steward.Host
